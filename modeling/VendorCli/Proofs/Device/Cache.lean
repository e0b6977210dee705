import VendorCli.Device
/-!
# The cache of a transaction

`fetch` sends a command only if the cache has no answer to it, and keeps what the device shows
unless that is a failure. `Fetched` says what a single command can do. From it:

* a cache that agrees with the device stays so, and what is fetched is what the device shows anyway
  (`Agrees.fetch_spec`, `Agrees.fetchAll`);
* of all commands that are asked for, those that show something are sent once, and the others every
  time (`Agrees.exists_sends`);
* the commands in the cache are those that show something, in the order in which they were first
  asked for (`Agrees.commands_fetchAll`).
-/

namespace VendorCli

namespace ReadContext

variable {c : ReadContext} {command : Text}

/-- A command is without an answer in the cache exactly if it is not among the cached ones. -/
theorem cached?_eq_none_iff : c.cached? command = none ↔ command ∉ c.commands :=
  lookup?_eq_none_iff

/-- A command with an answer is among the cached ones. -/
theorem mem_commands_of_cached? {output : Text} (h : c.cached? command = some output) :
    command ∈ c.commands := by
  have hentry : (command, output) ∈ c.answers := mem_of_lookup? h
  exact List.mem_map_of_mem (f := (·.1)) hentry

/-- Storing an answer leaves those to other commands alone. -/
theorem cached?_store_of_ne {other : Text} (h : other ≠ command) (output : Text) :
    (c.store command output).cached? other = c.cached? other :=
  lookup?_insertLast_of_ne h output c.answers

/-- A command that is stored for the first time comes last. -/
theorem commands_store (h : command ∉ c.commands) (output : Text) :
    (c.store command output).commands = c.commands ++ [command] :=
  (map_fst_insertLast output).trans (if_neg h)

end ReadContext

namespace Device

variable {d : Device} {c : ReadContext} {command : Text} {asked : List Text}

/-! ### One command -/

/-- Whether a command shows something: the device answers it, and the answer reports no error. -/
def shows (d : Device) (command : Text) : Bool :=
  (d.freshOutput command).toOption.isSome

/-- An answer without an error is enough for a command to show something. -/
theorem shows_of_ok {output : Text} (h : d.freshOutput command = .ok output) :
    d.shows command = true := by
  rw [shows, h]
  rfl

/-- A command that shows something is not one that fails. -/
theorem ne_of_shows {other : Text} (h : d.shows command = true) (hother : d.shows other = false) :
    command ≠ other := by
  rintro rfl
  rw [h] at hother
  cases hother

/-- What a command shows does not depend on what was sent before. -/
@[simp] theorem freshOutput_record (d : Device) (sent command : Text) :
    (d.record sent).freshOutput command = d.freshOutput command := by
  have hanswer : (d.record sent).answer command = d.answer command :=
    Session.answer_record d.session sent command
  rw [freshOutput, freshOutput, hanswer]
  rfl

/-- Nor does it depend on a whole run of commands sent before. -/
theorem freshOutput_foldl_record (d : Device) (sent : List Text) :
    (sent.foldl record d).freshOutput = d.freshOutput := by
  induction sent generalizing d with
  | nil => rfl
  | cons command sent ih =>
    exact (ih (d.record command)).trans (funext (freshOutput_record d command))

/-- A replay session remembers what was sent. -/
theorem foldl_record_replay (s : Replay) (p : Platform) (hostname : Text) (sent : List Text) :
    sent.foldl record ⟨.replay s, p, hostname⟩
      = ⟨.replay { s with history := s.history ++ sent }, p, hostname⟩ := by
  induction sent generalizing s with
  | nil => rw [List.append_nil, List.foldl_nil]
  | cons command sent ih =>
    rw [List.foldl_cons]
    refine (ih (s.record command)).trans ?_
    rw [Replay.record, List.append_assoc, List.singleton_append]

/-- What a replay session answers does not depend on its history. -/
theorem freshOutput_replay (s : Replay) (p : Platform) (hostname : Text) (history : List Text) :
    freshOutput ⟨.replay { s with history := history }, p, hostname⟩
      = freshOutput ⟨.replay s.forget, p, hostname⟩ := by
  -- take the session without its history, and send it the history
  have hsent := freshOutput_foldl_record ⟨.replay s.forget, p, hostname⟩ history
  rw [foldl_record_replay] at hsent
  exact hsent

/-- Whether a command shows something does not depend on what was sent before. -/
@[simp] theorem shows_record (d : Device) (sent : Text) : (d.record sent).shows = d.shows := by
  funext command
  rw [shows, shows, freshOutput_record]

/-- A cache agrees with a device if its answers are what the device shows. -/
def Agrees (c : ReadContext) (d : Device) : Prop :=
  ∀ command output, c.cached? command = some output → d.freshOutput command = .ok output

/-- With nothing in it, a cache agrees with every device. -/
theorem agrees_empty (d : Device) : Agrees .empty d := by
  intro command output h
  cases h

/-- Sending a command does not change what a device shows, so agreement stays. -/
theorem Agrees.record (h : Agrees c d) (sent : Text) : Agrees c (d.record sent) := by
  intro command output hcached
  rw [freshOutput_record]
  exact h command output hcached

/-- Agreement stays if the new answer is what the device shows. -/
theorem Agrees.store {output : Text} (h : Agrees c d) (hok : d.freshOutput command = .ok output) :
    Agrees (c.store command output) d := by
  intro other kept hcached
  -- the stored answer is the new one for its own command, and the old one for the others
  by_cases hother : other = command
  · subst hother
    rw [ReadContext.cached?_store_self, Option.some.injEq] at hcached
    rw [hok, hcached]
  · rw [ReadContext.cached?_store_of_ne hother] at hcached
    exact h other kept hcached

/-- **What fetching does** to the device and the cache: the output comes out of the cache, or it is
put there, or there is none. -/
inductive Fetched (d : Device) (command : Text) (c : ReadContext) : Device × ReadContext → Prop
  | cached (hin : command ∈ c.commands) (hshows : d.shows command = true) :
    Fetched d command c (d, c)
  | kept {output : Text} (hnew : command ∉ c.commands) (hok : d.freshOutput command = .ok output) :
    Fetched d command c (d.record command, c.store command output)
  | failed (hnew : command ∉ c.commands) (hfails : d.shows command = false) :
    Fetched d command c (d.record command, c)

/-- **Transparency.** With a cache that agrees with the device, what is fetched is what the device
shows. -/
theorem Agrees.fetch_spec (h : Agrees c d) (command : Text) :
    (d.fetch command c).1 = d.freshOutput command ∧
      Fetched d command c (d.fetch command c).2 := by
  -- the cases of `fetch` itself: a hit, a miss with an answer, a miss with a failure
  rw [fetch]
  cases hcached : c.cached? command with
  | some output =>
    have hin : command ∈ c.commands := ReadContext.mem_commands_of_cached? hcached
    exact ⟨(h command output hcached).symm, .cached hin (shows_of_ok (h command output hcached))⟩
  | none =>
    have hnew : command ∉ c.commands := ReadContext.cached?_eq_none_iff.mp hcached
    cases hfresh : d.freshOutput command with
    | ok output => exact ⟨rfl, .kept hnew hfresh⟩
    | error e => exact ⟨rfl, .failed hnew (by rw [shows, hfresh]; rfl)⟩

/-- **One step.** A fetch leaves a cache that agrees with the device it leaves. -/
theorem Agrees.of_fetched {s : Device × ReadContext} (h : Agrees c d) (hs : Fetched d command c s) :
    Agrees s.2 s.1 := by
  cases hs with
  | cached => exact h
  | kept _ hok => exact (h.store hok).record command
  | failed => exact h.record command

/-- A fetch does not change what the device shows. -/
theorem Fetched.freshOutput_eq {s : Device × ReadContext} (hs : Fetched d command c s)
    (other : Text) : s.1.freshOutput other = d.freshOutput other := by
  cases hs with
  | cached => rfl
  | kept => exact freshOutput_record d command other
  | failed => exact freshOutput_record d command other

/-- A fetch leaves the platform as it is. -/
theorem platform_fetch (d : Device) (command : Text) (c : ReadContext) :
    (d.fetch command c).2.1.platform = d.platform := by
  rw [fetch]
  split
  · rfl
  · split <;> rfl

/-- A command in the cache is not sent again. -/
theorem fetch_of_cached {output : Text} (h : c.cached? command = some output) (d : Device) :
    d.fetch command c = (.ok output, d, c) := by
  rw [fetch, h]

/-- A command that shows something is fetched from any cache, and is in the cache then. -/
theorem exists_fetch_of_shows (h : d.shows command = true) (c : ReadContext) :
    ∃ output d' c', d.fetch command c = (.ok output, d', c') ∧
      c'.cached? command = some output := by
  cases hcached : c.cached? command with
  -- the answer is in the cache, and nothing is sent
  | some output => exact ⟨output, d, c, fetch_of_cached hcached d, hcached⟩
  | none =>
    cases hfresh : d.freshOutput command with
    | ok output =>
      -- it is sent and stored, which makes it an answer of the cache
      refine ⟨output, d.record command, c.store command output, ?_, c.cached?_store_self _ _⟩
      rw [fetch, hcached, hfresh]
    | error e =>
      rw [shows, hfresh] at h
      cases h

/-! ### Many commands -/

/-- The device and the cache after commands were fetched one after the other. -/
def fetchAll : List Text → Device × ReadContext → Device × ReadContext
  | [], s => s
  | command :: rest, s => fetchAll rest (s.1.fetch command s.2).2

/-- What is sent of the commands that are asked for, if some are `known` before: those that show
something once unless they are known, and the others every time. -/
structure Sends (d : Device) (known asked sent : List Text) : Prop where
  sublist : sent.Sublist asked
  once : ∀ command, d.shows command = true →
    sent.count command = if command ∈ asked ∧ command ∉ known then 1 else 0
  always : ∀ command, d.shows command = false → sent.count command = asked.count command

namespace Sends

variable {known sent : List Text}

theorem nil (d : Device) (known : List Text) : Sends d known [] [] :=
  ⟨.slnil, by simp, by simp⟩

/-- A command that is known is not sent. -/
theorem cached (h : Sends d known asked sent) (hin : command ∈ known)
    (hshows : d.shows command = true) : Sends d known (command :: asked) sent where
  sublist := h.sublist.cons command
  once := by
    intro other hother
    rw [h.once other hother]
    -- `other` is asked for once more only if it is the known command, and that counts for nothing
    by_cases heq : other = command <;> simp [heq, hin]
  always := by
    intro other hother
    have hne : command ≠ other := ne_of_shows hshows hother
    rw [List.count_cons_of_ne hne, h.always other hother]

/-- A command that shows something for the first time is sent, and is known from then on. -/
theorem kept (h : Sends d (known ++ [command]) asked sent) (hnew : command ∉ known)
    (hshows : d.shows command = true) : Sends d known (command :: asked) (command :: sent) where
  sublist := h.sublist.cons_cons command
  once := by
    intro other hother
    by_cases heq : command = other
    -- it is sent now, and not again by the rest since it is known there
    · subst heq
      rw [List.count_cons_self, h.once command hother, if_neg (by simp), if_pos ⟨by simp, hnew⟩]
    · rw [List.count_cons_of_ne heq, h.once other hother]
      simp [Ne.symm heq]
  always := by
    intro other hother
    -- a failing command is not this one, so both counts pass over the new entry
    have hne : command ≠ other := ne_of_shows hshows hother
    rw [List.count_cons_of_ne hne, List.count_cons_of_ne hne, h.always other hother]

/-- A command that fails is sent and forgotten. -/
theorem failed (h : Sends d known asked sent) (hfails : d.shows command = false) :
    Sends d known (command :: asked) (command :: sent) where
  sublist := h.sublist.cons_cons command
  once := by
    intro other hother
    -- a command that shows something is not this one
    have hne : command ≠ other := (ne_of_shows hother hfails).symm
    rw [List.count_cons_of_ne hne, h.once other hother]
    simp [Ne.symm hne]
  always := by
    intro other hother
    rw [List.count_cons, List.count_cons, h.always other hother]

/-- It makes no difference that another command was sent before. -/
theorem of_record {other : Text} (h : Sends (d.record other) known asked sent) :
    Sends d known asked sent where
  sublist := h.sublist
  once := by simpa using h.once
  always := by simpa using h.always

end Sends

/-- **What is sent** over a run of commands. -/
theorem Agrees.exists_sends (h : Agrees c d) (asked : List Text) :
    ∃ sent, (fetchAll asked (d, c)).1 = sent.foldl Device.record d ∧
      Sends d c.commands asked sent := by
  -- each step leaves a cache that agrees with the device it leaves, so both are generalized
  induction asked generalizing d c with
  | nil => exact ⟨[], rfl, .nil d c.commands⟩
  | cons command asked ih =>
    have hfetched := (h.fetch_spec command).2
    have hagrees := h.of_fetched hfetched
    rw [fetchAll]
    generalize (d.fetch command c).2 = s at hfetched hagrees
    -- the rest is sent from the device and the cache that the first command leaves
    obtain ⟨sent, hdevice, hsends⟩ := ih hagrees
    cases hfetched with
    | cached hin hshows => exact ⟨sent, hdevice, hsends.cached hin hshows⟩
    | @kept output hnew hok =>
      rw [ReadContext.commands_store hnew] at hsends
      exact ⟨command :: sent, hdevice, hsends.of_record.kept hnew (shows_of_ok hok)⟩
    | failed _ hfails => exact ⟨command :: sent, hdevice, hsends.of_record.failed hfails⟩

/-- **What is cached** after a run of commands: what was there before, and then the commands that
show something, as they were first asked for. -/
theorem Agrees.commands_fetchAll (h : Agrees c d) (asked : List Text) :
    (fetchAll asked (d, c)).2.commands
      = c.commands ++ (distinct (asked.filter d.shows)).filter (· ∉ c.commands) := by
  -- as above, the induction is over every pair of a device and a cache that agree
  induction asked generalizing d c with
  | nil => simp [fetchAll, distinct]
  | cons command asked ih =>
    have hfetched := (h.fetch_spec command).2
    have hagrees := h.of_fetched hfetched
    rw [fetchAll]
    generalize (d.fetch command c).2 = s at hfetched hagrees
    rw [ih hagrees]
    cases hfetched with
    | cached hin hshows =>
      -- the command is cached already, so leaving out later occurrences of it makes no difference
      rw [List.filter_cons_of_pos hshows, distinct, List.filter_cons_of_neg (by simpa using hin),
        List.filter_filter]
      refine congrArg (c.commands ++ ·) (List.filter_congr fun other _ => ?_)
      by_cases heq : other = command <;> simp [heq, hin]
    | @kept output hnew hok =>
      -- the command comes next, and its later occurrences are left out on both sides
      rw [ReadContext.commands_store hnew, shows_record, List.filter_cons_of_pos (shows_of_ok hok),
        distinct, List.filter_cons_of_pos (by simpa using hnew), List.filter_filter,
        List.append_assoc, List.singleton_append]
      refine congrArg (c.commands ++ command :: ·) (List.filter_congr fun other _ => ?_)
      simp
    | failed _ hfails => rw [shows_record, List.filter_cons_of_neg (by simp [hfails])]

/-- Whatever is asked for, the cache has no other answers than the device gives. -/
theorem Agrees.fetchAll (h : Agrees c d) (asked : List Text) :
    Agrees (fetchAll asked (d, c)).2 d := by
  induction asked generalizing d c with
  | nil => exact h
  | cons command asked ih =>
    have hfetched := (h.fetch_spec command).2
    intro other output hcached
    -- the rest agrees with the device after the first command, which shows the same
    rw [← hfetched.freshOutput_eq other]
    exact ih (h.of_fetched hfetched) other output hcached

end Device

end VendorCli
