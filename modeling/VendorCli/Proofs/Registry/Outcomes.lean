import VendorCli.Proofs.Registry.Refusals
/-!
# Outcomes of a change

Applying a change sends one block or none, and what can go wrong before that leaves everything as it
was.

* `WriteOutcome` lists how a change can end, with what it leaves behind. `Device.apply` ends in
  these ways alone, and so does `Registry.write` with the built-in units (`write_outcome`);
* `write_all_or_nothing` says what that means for the blocks of the context and for the history of a
  replay session;
* `check_predicts_sending` compares a change in check mode to the same change outside of it: up to
  the point where the block is recorded, the mode makes no difference.
-/

namespace VendorCli

/-- The failure of a device that rejects a block or cannot be reached with it. -/
inductive Error.IsWriteFailed : Error → Prop
  | writeFailed (path command output : Text) : IsWriteFailed (.writeFailed path command output)

/-- **How a change ends**, from the state of a device and a context. -/
inductive WriteOutcome (d : Device) (c : WriteContext) :
    Except Error Unit → Device → WriteContext → Prop
  /-- The change was refused, and nothing happened. -/
  | refused {e : Error} (h : e.IsRefusal) : WriteOutcome d c (.error e) d c
  /-- There was nothing to do. -/
  | unchanged : WriteOutcome d c (.ok ()) d c
  /-- The block was recorded, as in check mode. -/
  | recorded (block : Text) (h : c.checkMode = true) : WriteOutcome d c (.ok ()) d (c.record block)
  /-- The block was recorded and sent. -/
  | sent (block : Text) (h : c.checkMode = false) :
    WriteOutcome d c (.ok ()) (d.record block) (c.record block)
  /-- The block was recorded and sent, and the device did not take it. -/
  | rejected (block : Text) {e : Error} (he : e.IsWriteFailed) (h : c.checkMode = false) :
    WriteOutcome d c (.error e) (d.record block) (c.record block)

/-- The path of the configuration of an interface. -/
def Interfaces.pathOf (name : Text) : ConfigPath :=
  ⟨[⟨"interfaces", []⟩, ⟨"interface", [("name", name)]⟩, ⟨"config", []⟩]⟩

/-- A context never is what it was before a block was recorded. -/
theorem WriteContext.record_ne (c : WriteContext) (block : Text) : c.record block ≠ c := by
  intro h
  simpa [record] using congrArg blocks h

/-! ### Sending lines -/

namespace Device

variable (d : Device) (path : ConfigPath) {lines : List Text} {c : WriteContext}

/-- Blank lines are not applied at all. -/
theorem apply_of_blank (h : effectiveLines lines = []) : d.apply path lines c = (.ok [], d, c) :=
  if_pos h

/-- In check mode the block is recorded and not sent. -/
theorem apply_of_check (h : effectiveLines lines ≠ []) (hc : c.checkMode = true) :
    d.apply path lines c = (.ok [], d, c.record (d.blockOf (effectiveLines lines))) :=
  (if_neg h).trans (if_pos hc)

/-- Outside of check mode it is recorded and sent. -/
theorem apply_of_send (h : effectiveLines lines ≠ []) (hc : c.checkMode = false) :
    d.apply path lines c
      = (d.applied path.toText (effectiveLines lines),
          d.record (d.blockOf (effectiveLines lines)),
          c.record (d.blockOf (effectiveLines lines))) :=
  (if_neg h).trans (if_neg (by simp [WriteContext.record, hc]))

/-- A device does not take a block in one way only. -/
theorem isWriteFailed_of_applied {path : Text} {e : Error} (h : d.applied path lines = .error e) :
    e.IsWriteFailed := by
  rw [applied] at h
  dsimp only at h
  -- the session fails, or its answer holds an error
  split at h
  · cases h
    exact .writeFailed _ _ _
  · split at h
    · cases h
    · cases h
      exact .writeFailed _ _ _

/-- What applying lines does, when there is nothing wrong with the lines themselves. -/
theorem writeOutcome_apply (lines : List Text) (c : WriteContext) :
    WriteOutcome d c ((d.apply path lines c).1.map fun _ => ()) (d.apply path lines c).2.1
      (d.apply path lines c).2.2 := by
  -- nothing to send, check mode, or a block that the device takes or rejects
  by_cases hblank : effectiveLines lines = []
  · rw [d.apply_of_blank path hblank]
    exact .unchanged
  · cases hc : c.checkMode with
    | true =>
      rw [d.apply_of_check path hblank hc]
      exact .recorded _ hc
    | false =>
      rw [d.apply_of_send path hblank hc]
      cases happlied : d.applied path.toText (effectiveLines lines) with
      | ok output => exact .sent _ hc
      | error e => exact .rejected _ (d.isWriteFailed_of_applied happlied) hc

end Device

/-! ### Applying changes -/

namespace Registry

/-- The lines of a change, from the writer that a registry finds. -/
def plan (r : Registry) (path : ConfigPath) (p : Platform) (change : Change) :
    Except Error (List Text) := do
  let w ← r.writer path p
  w.plan path change

section Write

variable {r : Registry} {path : ConfigPath} {change : Change} {d : Device} {e : Error}
  {lines : List Text}

/-- A change that cannot be planned leaves the device and the context as they are. -/
theorem write_of_error (h : r.plan path d.platform change = .error e) (c : WriteContext) :
    r.write path change d c = (.error e, d, c) := by
  rw [write]
  cases hw : r.writer path d.platform with
  | error e' =>
    rw [plan, hw] at h
    cases h
    rfl
  | ok w =>
    rw [plan, hw] at h
    change w.plan path change = .error e at h
    simp only [h]

/-- A change that is planned is applied, without its output. -/
theorem write_of_ok (h : r.plan path d.platform change = .ok lines) (c : WriteContext) :
    r.write path change d c
      = ((d.apply path lines c).1.map fun _ => (), (d.apply path lines c).2) := by
  rw [write]
  cases hw : r.writer path d.platform with
  | error e' =>
    rw [plan, hw] at h
    cases h
  | ok w =>
    rw [plan, hw] at h
    change w.plan path change = .ok lines at h
    simp only [h]
    obtain ⟨result, d', c'⟩ := d.apply path lines c
    cases result <;> rfl

/-- A change without a line that is not blank leaves the device and the context as they are. -/
theorem write_of_blank (h : r.plan path d.platform change = .ok lines)
    (hblank : Device.effectiveLines lines = []) (c : WriteContext) :
    r.write path change d c = (.ok (), d, c) := by
  rw [write_of_ok h, d.apply_of_blank path hblank]
  rfl

/-- A change with a line that is not blank leaves a block in the context, in check mode and outside
of it. -/
theorem recorded_of_ok (h : r.plan path d.platform change = .ok lines)
    (hne : Device.effectiveLines lines ≠ []) (c : WriteContext) :
    (r.write path change d c).2.2 = c.record (d.blockOf (Device.effectiveLines lines)) := by
  rw [write_of_ok h]
  cases hc : c.checkMode with
  | true => rw [d.apply_of_check path hne hc]
  | false => rw [d.apply_of_send path hne hc]

/-- Outside of check mode, a block that is left in the context was sent to the device. -/
theorem device_of_ok (h : r.plan path d.platform change = .ok lines)
    (hne : Device.effectiveLines lines ≠ []) (c : WriteContext) :
    (r.write path change d c).2.1
      = if c.checkMode then d else d.record (d.blockOf (Device.effectiveLines lines)) := by
  rw [write_of_ok h]
  cases hc : c.checkMode with
  | true =>
    rw [d.apply_of_check path hne hc]
    rfl
  | false =>
    rw [d.apply_of_send path hne hc]
    rfl

/-- With built-in units, planning a change has no other failure than a refusal. -/
theorem refusesOnly_plan_of_builtin (hr : ∀ u ∈ r.units, u ∈ Units.builtin) (path : ConfigPath)
    (p : Platform) (change : Change) : RefusesOnly (r.plan path p change) := by
  intro e h
  rw [plan] at h
  cases hw : r.writer path p with
  | error e' =>
    -- there is no writer, or it refuses the change
    rw [hw] at h
    cases h
    exact refusesOnly_writer r path p _ hw
  | ok w =>
    rw [hw] at h
    obtain ⟨u, hu, hmem⟩ := exists_unit_of_writer hw
    exact Units.refuseOnly_of_mem_builtin (hr u hu) _ w hmem path change e h

/-- **Every outcome.** With built-in units, a change ends in one of the ways of `WriteOutcome`. -/
theorem write_outcome (hr : ∀ u ∈ r.units, u ∈ Units.builtin) (path : ConfigPath) (change : Change)
    (d : Device) (c : WriteContext) :
    WriteOutcome d c (r.write path change d c).1 (r.write path change d c).2.1
      (r.write path change d c).2.2 := by
  cases h : r.plan path d.platform change with
  | error e =>
    rw [write_of_error h]
    exact .refused (refusesOnly_plan_of_builtin hr path d.platform change e h)
  | ok lines =>
    rw [write_of_ok h]
    exact d.writeOutcome_apply path lines c

end Write

/-- **All or nothing.** With any selection of the built-in units, over a replay session:

* a change that is refused leaves the blocks of the context and the history of the session alone;
* a change that succeeds leaves both alone, or adds one block to the context and, outside of check
  mode only, the same block to the history;
* a change that the device does not take was not made in check mode, and has added one block to
  both.

A change has no other failure. -/
theorem write_all_or_nothing {r : Registry} (hr : ∀ u ∈ r.units, u ∈ Units.builtin)
    {d : Device} {replay : Replay} (hd : d.session = .replay replay) (path : ConfigPath)
    (change : Change) (c : WriteContext) :
    let (result, d', c') := r.write path change d c
    (∀ e, result = .error e → e.IsRefusal → c' = c ∧ d'.history = d.history) ∧
    (result = .ok () →
      (c' = c ∧ d'.history = d.history) ∨
      ∃ block, c'.blocks = c.blocks ++ [block] ∧
        d'.history = if c.checkMode then d.history else d.history ++ [block]) ∧
    (∀ e, result = .error e → e.IsWriteFailed →
      c.checkMode = false ∧
      ∃ block, c'.blocks = c.blocks ++ [block] ∧ d'.history = d.history ++ [block]) ∧
    (∀ e, result = .error e → e.IsRefusal ∨ e.IsWriteFailed) := by
  -- sending a block to a replay session puts it at the end of the history
  have hhistory : ∀ block, (d.record block).history = d.history ++ [block] := by
    intro block
    rw [Device.history, Device.record, Device.history, hd]
    rfl
  have houtcome := write_outcome hr path change d c
  -- from here on, all that counts is how the change ended
  generalize r.write path change d c = written at houtcome ⊢
  obtain ⟨result, d', c'⟩ := written
  cases houtcome with
  | refused he =>
    refine ⟨fun _ _ _ => ⟨rfl, rfl⟩, fun h => ?_, fun e h hw => ?_, fun e h => ?_⟩
    · cases h
    -- a failure is a refusal or a rejection, and not both
    · cases h
      cases hw
      cases he
    · cases h
      exact .inl he
  | unchanged =>
    refine ⟨fun e h => ?_, fun _ => .inl ⟨rfl, rfl⟩, fun e h => ?_, fun e h => ?_⟩ <;> cases h
  | recorded block hc =>
    refine ⟨fun e h => ?_, fun _ => .inr ⟨block, rfl, ?_⟩, fun e h => ?_, fun e h => ?_⟩
    · cases h
    · rw [hc, if_pos rfl]
    · cases h
    · cases h
  | sent block hc =>
    refine ⟨fun e h => ?_, fun _ => .inr ⟨block, rfl, ?_⟩, fun e h => ?_, fun e h => ?_⟩
    · cases h
    · rw [hc, if_neg Bool.false_ne_true]
      exact hhistory block
    · cases h
    · cases h
  | rejected block he hc =>
    refine ⟨fun e h hr => ?_, fun h => ?_, fun e h _ => ⟨hc, block, rfl, hhistory block⟩,
      fun e h => ?_⟩
    · cases h
      cases he
      cases hr
    · cases h
    · cases h
      exact .inr he

/-- A loopback interface is created with one block, on a router with VRP. -/
theorem write_loopback_all_or_nothing :
    let (result, d', c') := (⟨[Units.vrpInterfaces]⟩ : Registry).write
      (Interfaces.pathOf "LoopBack0") ⟨none, some (Interface.named "LoopBack0").toJson⟩
      { session := .replay (.named "router"), platform := .huawei, hostname := "router" } .sending
    result = .ok () ∧ c'.blocks ≠ [] ∧ d'.history = c'.blocks := by
  have h := (write_all_or_nothing (r := ⟨[Units.vrpInterfaces]⟩) (by simp [Units.builtin])
    (d := ⟨.replay (.named "router"), .huawei, "router"⟩) rfl (Interfaces.pathOf "LoopBack0")
    ⟨none, some (Interface.named "LoopBack0").toJson⟩ .sending).2.1 rfl
  have hblocks : ((⟨[Units.vrpInterfaces]⟩ : Registry).write
      (Interfaces.pathOf "LoopBack0") ⟨none, some (Interface.named "LoopBack0").toJson⟩
      ⟨.replay (.named "router"), .huawei, "router"⟩ .sending).2.2.blocks ≠ [] :=
    List.cons_ne_nil _ _
  -- as the context has a block, the change has not left both alone
  rcases h with ⟨hc, -⟩ | ⟨block, hsent, hhistory⟩
  · exact absurd (congrArg WriteContext.blocks hc) hblocks
  · exact ⟨rfl, hblocks, hhistory.trans hsent.symm⟩

/-- **Check mode predicts.** Made in check mode, a change records the same blocks as when it is
sent, and fails as it would then; if it does not fail, then sending it succeeds or is rejected by
the device. -/
theorem check_predicts_sending (r : Registry) (path : ConfigPath) (change : Change) (d : Device) :
    let (checked, _, predicted) := r.write path change d .checking
    let (result, _, written) := r.write path change d .sending
    predicted.blocks = written.blocks ∧
    (∀ e, checked = .error e → result = .error e) ∧
    (checked = .ok () → result = .ok () ∨ ∃ e, result = .error e ∧ e.IsWriteFailed) := by
  -- both runs plan the same change
  cases h : r.plan path d.platform change with
  | error e =>
    rw [write_of_error h, write_of_error h]
    refine ⟨rfl, fun _ he => he, fun hok => ?_⟩
    cases hok
  | ok lines =>
    rw [write_of_ok h, write_of_ok h]
    by_cases hblank : Device.effectiveLines lines = []
    · rw [d.apply_of_blank path hblank, d.apply_of_blank path hblank]
      exact ⟨rfl, fun _ he => he, fun _ => .inl rfl⟩
    · rw [d.apply_of_check path hblank rfl, d.apply_of_send path hblank rfl]
      refine ⟨rfl, fun e he => ?_, fun _ => ?_⟩
      · cases he
      · cases happlied : d.applied path.toText (Device.effectiveLines lines) with
        | ok output => exact .inl rfl
        | error e => exact .inr ⟨e, rfl, d.isWriteFailed_of_applied happlied⟩

end Registry

end VendorCli
