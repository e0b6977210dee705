import Mathlib.Data.List.Basic
import VendorCli.Proofs.Device.Cache
import VendorCli.Registry.Exchange
/-!
# Read transactions

Commands that are fetched, nodes that are read and lists that are listed share the cache of their
transaction. An operation fetches at most one command, and its result is made of what it fetched
(`fetches_perform`), so all that a run of operations does to the device and the cache is what
fetching these commands does (`snd_performAll`).

`caching_transparent` compares such a run with operations that have no cache to go by, each of which
sends its command (`perform_empty`). Their results are the same, whatever was sent before, and only
the traffic differs.
-/

namespace VendorCli

/-- An operation of a read transaction. -/
inductive ReadOperation where
  | fetch (command : Text)
  | read (path : ConfigPath)
  | list (path : ConfigPath)

/-- What an operation of a read transaction results in. -/
inductive ReadResult where
  | output (shown : Except Error Text)
  | value (found : Except Error (Option Json))
  | entries (paths : Except Error (List ConfigPath))

namespace Registry

open Device

variable {r : Registry} {p : Platform} {o : ReadOperation} {d : Device} {c : ReadContext}

/-! ### Operations -/

/-- A list has the keys in what its command shows. -/
theorem list_of_fetch {path : ConfigPath} {lister : Lister} {command output : Text} {d' : Device}
    {c' : ReadContext} (hlister : r.lister path d.platform = .ok lister)
    (hquery : lister.query path = .ok command)
    (hfetch : d.fetch command c = (.ok output, d', c')) :
    r.list path d c
      = (.ok ((lister.keys path output).map fun key =>
        path.withKey lister.keyName key), d', c') := by
  simp only [list, hlister, hquery, hfetch]

/-- A node whose command is in the cache is read without the device. -/
theorem read_of_cached {path : ConfigPath} {reader : Reader} {command output : Text}
    (hreader : r.reader path d.platform = .ok reader)
    (hquery : reader.query path = .ok (some command))
    (hcached : c.cached? command = some output) :
    r.read path d c = (reader.interpret path output, d, c) := by
  simp only [read, hreader, hquery, fetch_of_cached hcached]

/-- Perform an operation. -/
def perform (r : Registry) (o : ReadOperation) (d : Device) (c : ReadContext) :
    ReadResult × Device × ReadContext :=
  match o with
  | .fetch command =>
    let (output, s) := d.fetch command c
    (.output output, s)
  | .read path =>
    let (found, s) := r.read path d c
    (.value found, s)
  | .list path =>
    let (paths, s) := r.list path d c
    (.entries paths, s)

/-- Perform operations one after the other, with one cache. -/
def performAll (r : Registry) :
    List ReadOperation → Device × ReadContext → List ReadResult × Device × ReadContext
  | [], s => ([], s)
  | o :: rest, s =>
    let (result, s) := r.perform o s.1 s.2
    let (results, s) := r.performAll rest s
    (result :: results, s)

/-- The command that an operation fetches, if it gets so far. -/
def command? (r : Registry) (p : Platform) : ReadOperation → Option Text
  | .fetch command => some command
  | .read path => ((r.reader path p).bind fun reader => reader.query path).toOption.join
  | .list path => ((r.lister path p).bind fun lister => lister.query path).toOption

/-- **What an operation does.** On all devices of a platform it has the same result and fetches
nothing, or it makes its result of what the same command shows. -/
inductive Fetches {α : Type} (p : Platform)
    (act : Device → ReadContext → α × Device × ReadContext) : Option Text → Prop
  | nothing (result : α) (h : ∀ d c, d.platform = p → act d c = (result, d, c)) :
    Fetches p act none
  | command (command : Text) (interpret : Except Error Text → α)
    (h : ∀ d c, d.platform = p →
      act d c = (interpret (d.fetch command c).1, (d.fetch command c).2)) :
    Fetches p act (some command)

/-- Making something else of the result does not change what is fetched. -/
theorem Fetches.map {α β : Type} {act : Device → ReadContext → α × Device × ReadContext}
    {command? : Option Text} (h : Fetches p act command?) (f : α → β) :
    Fetches p (fun d c => (f (act d c).1, (act d c).2)) command? := by
  cases h with
  | nothing result h => exact .nothing (f result) fun d c hd => by rw [h d c hd]
  | command command interpret h =>
    exact .command command (fun output => f (interpret output)) fun d c hd => by rw [h d c hd]

/-- **Reading fetches at most one command.** What a platform does not serve, or what has no command
of its own, is read without the device. -/
theorem fetches_read (r : Registry) (p : Platform) (path : ConfigPath) :
    Fetches p (r.read path)
      ((r.reader path p).bind fun reader => reader.query path).toOption.join := by
  cases hreader : r.reader path p with
  -- nobody serves the path: the failure is the result, and nothing is fetched
  | error e =>
    refine .nothing (.error e) ?_
    rintro d c rfl
    simp only [Registry.read, hreader]
  -- the command is asked of the reader and needs no device
  | ok reader =>
    change Fetches p (r.read path) (reader.query path).toOption.join
    cases hquery : reader.query path with
    | error e =>
      refine .nothing (.error e) ?_
      rintro d c rfl
      simp only [Registry.read, hreader, hquery]
    | ok query =>
      cases query with
      -- the record is made from the path alone
      | none =>
        refine .nothing (.ok none) ?_
        rintro d c rfl
        simp only [Registry.read, hreader, hquery]
      | some command =>
        -- the answer goes to the reader, and a failure is passed on
        refine .command command (fun output => output.bind (reader.interpret path)) ?_
        rintro d c rfl
        simp only [Registry.read, hreader, hquery]
        rcases d.fetch command c with ⟨e | output, s⟩ <;> rfl

/-- Listing fetches the command of the lister, or nothing if there is none for the path. -/
theorem fetches_list (r : Registry) (p : Platform) (path : ConfigPath) :
    Fetches p (r.list path)
      ((r.lister path p).bind fun lister => lister.query path).toOption := by
  cases hlister : r.lister path p with
  | error e =>
    refine .nothing (.error e) ?_
    rintro d c rfl
    simp only [Registry.list, hlister]
  | ok lister =>
    change Fetches p (r.list path) (lister.query path).toOption
    cases hquery : lister.query path with
    | error e =>
      refine .nothing (.error e) ?_
      rintro d c rfl
      simp only [Registry.list, hlister, hquery]
    | ok command =>
      -- the keys of the answer become paths below the one that is listed
      refine .command command (fun output => output.map fun t =>
        (lister.keys path t).map fun key => path.withKey lister.keyName key) ?_
      rintro d c rfl
      simp only [Registry.list, hlister, hquery]
      rcases d.fetch command c with ⟨e | output, s⟩ <;> rfl

/-- What an operation fetches is what its path asks for; the kind of the operation only changes the
form of the result. -/
theorem fetches_perform (r : Registry) (p : Platform) (o : ReadOperation) :
    Fetches p (r.perform o) (r.command? p o) := by
  cases o with
  | fetch command => exact .command command .output fun d c _ => rfl
  | read path => exact (r.fetches_read p path).map ReadResult.value
  | list path => exact (r.fetches_list p path).map ReadResult.entries

/-- **Transparency.** The result of an operation depends on what the device shows alone, and neither
on the cache nor on what was sent before. -/
theorem fst_perform_eq {e : Device} {c' : ReadContext} (hp : d.platform = e.platform)
    (hshown : d.freshOutput = e.freshOutput) (hc : Agrees c d) (hc' : Agrees c' e) :
    (r.perform o d c).1 = (r.perform o e c').1 := by
  -- `Fetches` is indexed by the command, so that is made a variable before the cases
  have hfetches := r.fetches_perform e.platform o
  generalize r.command? e.platform o = command? at hfetches
  cases hfetches with
  | nothing result h => rw [h d c hp, h e c' rfl]
  | command command interpret h =>
    rw [h d c hp, h e c' rfl]
    change interpret (d.fetch command c).1 = interpret (e.fetch command c').1
    -- both fetched outputs are what the devices show, by the two caches agreeing with them
    rw [(hc.fetch_spec command).1, (hc'.fetch_spec command).1, hshown]

/-- **One step.** An operation changes neither what the device shows nor that the cache agrees with
it. -/
theorem perform_preserves (r : Registry) (o : ReadOperation) (hc : Agrees c d) :
    (r.perform o d c).2.1.platform = d.platform ∧
      (r.perform o d c).2.1.freshOutput = d.freshOutput ∧
      Agrees (r.perform o d c).2.2 (r.perform o d c).2.1 := by
  -- as in `fst_perform_eq`, the command is made a variable first
  have hfetches := r.fetches_perform d.platform o
  generalize r.command? d.platform o = command? at hfetches
  cases hfetches with
  | nothing result h =>
    rw [h d c rfl]
    exact ⟨rfl, rfl, hc⟩
  | command command interpret h =>
    rw [h d c rfl]
    have hfetched := (hc.fetch_spec command).2
    exact ⟨platform_fetch d command c, funext hfetched.freshOutput_eq, hc.of_fetched hfetched⟩

/-- **Without a cache to go by**, an operation sends the command that it fetches, and the command is
kept if it shows something. -/
theorem perform_empty (r : Registry) (o : ReadOperation) (s : Replay) (hostname : Text) :
    (r.perform o ⟨.replay s, p, hostname⟩ .empty).2.1
        = ⟨.replay { s with history := s.history ++ (r.command? p o).toList }, p, hostname⟩ ∧
      (r.perform o ⟨.replay s, p, hostname⟩ .empty).2.2.commands
        = (r.command? p o).toList.filter (shows ⟨.replay s, p, hostname⟩) := by
  have hfetches := r.fetches_perform p o
  generalize r.command? p o = command? at hfetches
  cases hfetches with
  | nothing result h =>
    rw [h _ _ rfl, Option.toList_none, List.append_nil]
    exact ⟨rfl, rfl⟩
  | command command interpret h =>
    rw [h _ _ rfl, Option.toList_some]
    have hfetched := ((agrees_empty ⟨.replay s, p, hostname⟩).fetch_spec command).2
    -- what the step leaves is told by `Fetched` alone
    generalize (fetch ⟨.replay s, p, hostname⟩ command .empty).2 = after at hfetched ⊢
    cases hfetched with
    -- nothing is cached in an empty context
    | cached hin => exact absurd hin List.not_mem_nil
    | kept _ hok => exact ⟨rfl, by rw [List.filter_singleton, shows_of_ok hok]; rfl⟩
    | failed _ hfails => exact ⟨rfl, by rw [List.filter_singleton, hfails]; rfl⟩

/-! ### Runs -/

/-- All that a run does to the device and the cache is what fetching its commands does. -/
theorem snd_performAll (os : List ReadOperation) (hp : d.platform = p) :
    (r.performAll os (d, c)).2 = fetchAll (os.filterMap (r.command? p)) (d, c) := by
  -- the induction is on the operations, from any device of the platform and any cache
  induction os generalizing d c with
  | nil => rfl
  | cons o os ih =>
    have hfetches := r.fetches_perform p o
    rw [List.filterMap_cons, performAll]
    generalize r.command? p o = command? at hfetches
    cases hfetches with
    | nothing result h =>
      rw [h d c hp]
      -- the operation passes the state on, and the list of commands has no entry for it
      exact ih hp
    | command command interpret h =>
      rw [h d c hp]
      exact ih ((platform_fetch d command c).trans hp)

/-- The results of a run are those of its operations by themselves. -/
theorem fst_performAll {e : Device} (os : List ReadOperation) (hp : d.platform = e.platform)
    (hshown : d.freshOutput = e.freshOutput) (hc : Agrees c d) :
    (r.performAll os (d, c)).1 = os.map fun o => (r.perform o e .empty).1 := by
  -- the step keeps what the induction needs of the state: platform, answers and a cache that agrees
  induction os generalizing d c with
  | nil => rfl
  | cons o os ih =>
    obtain ⟨hplatform, hfresh, hagrees⟩ := r.perform_preserves o hc
    exact congrArg₂ List.cons (fst_perform_eq hp hshown hc (agrees_empty e))
      (ih (hplatform.trans hp) (hfresh.trans hshown) hagrees)

/-- **Caching is transparent.** A run of operations with one cache, on a replay session, compared to
the same operations without one, whatever was sent before them: the results are the same. What is
asked for are the commands of the operations. Without a cache each is sent, and kept if it shows
something. With one, those that show something are sent once, and the others as often as they are
asked for. The cache ends up with the former, in the order in which they were first asked for, and
with no other answers than the device gives. -/
theorem caching_transparent (r : Registry) (s : Replay) (p : Platform) (hostname : Text)
    (os : List ReadOperation) :
    let device (history : List Text) : Device :=
      ⟨.replay { s with history := history }, p, hostname⟩
    let fresh (history : List Text) (o : ReadOperation) := r.perform o (device history) .empty
    let asked := os.filterMap (r.command? p)
    let after := r.performAll os (device s.history, .empty)
    (∀ history, after.1 = os.map fun o => (fresh history o).1) ∧
    (∀ history o, (fresh history o).2.1 = device (history ++ (r.command? p o).toList) ∧
      (fresh history o).2.2.commands
        = (r.command? p o).toList.filter (device s.history).shows) ∧
    (∃ sent, after.2.1 = device (s.history ++ sent) ∧ sent.Sublist asked ∧ ∀ command,
      sent.count command =
        if (device s.history).shows command then (if command ∈ asked then 1 else 0)
        else asked.count command) ∧
    (∀ command output, after.2.2.cached? command = some output →
      (device s.history).freshOutput command = .ok output) ∧
    after.2.2.commands = distinct (asked.filter (device s.history).shows) := by
  intro device fresh asked after
  have hagrees : Agrees .empty (device s.history) := agrees_empty _
  have hstate : after.2 = fetchAll asked (device s.history, .empty) := snd_performAll os rfl
  -- what the device shows is the same after any history
  have hshown : ∀ history, (device s.history).freshOutput = (device history).freshOutput :=
    fun history => (freshOutput_replay s p hostname _).trans
      (freshOutput_replay s p hostname _).symm
  have hshows : ∀ history, (device history).shows = (device s.history).shows :=
    fun history => funext fun command => by rw [shows, shows, hshown history]
  refine ⟨fun history => ?_, fun history o => ?_, ?_, ?_, ?_⟩
  · exact fst_performAll os rfl (hshown history) hagrees
  -- each claim about a fresh context holds of the answers, and those do not know the history
  · rw [← hshows history]
    exact r.perform_empty o { s with history := history } hostname
  · obtain ⟨sent, hdevice, hsends⟩ := hagrees.exists_sends asked
    refine ⟨sent, ?_, hsends.sublist, fun command => ?_⟩
    · rw [hstate, hdevice]
      exact foldl_record_replay s p hostname sent
    · -- the cache is empty before the run, so no command is known
      cases hcommand : (device s.history).shows command with
      | true => simpa [ReadContext.commands, ReadContext.empty] using hsends.once command hcommand
      | false => simpa using hsends.always command hcommand
  · rw [hstate]
    exact hagrees.fetchAll asked
  · rw [hstate, hagrees.commands_fetchAll]
    simp [ReadContext.commands, ReadContext.empty]

/-- A command that shows something is sent once, and one that fails each time. -/
example :
    let s := (Replay.named "router").withResponse "show clock" "12:00"
    let after := performAll .empty
      [.fetch "show clock", .fetch "show users", .fetch "show clock", .fetch "show users"]
      (⟨.replay s, .ciscoIos, "router"⟩, .empty)
    let sent : List Text := ["show clock", "show users", "show users"]
    after.2.1.history = sent ∧ after.2.2.commands = [("show clock" : Text)] := by
  decide +kernel

end Registry

end VendorCli
