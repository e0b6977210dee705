import VendorCli.Proofs.Registry.Outcomes
import VendorCli.Proofs.Session.Answers
/-!
# Rejected blocks

A device rejects a block of configuration lines if it cannot be reached with it, or if its answer
reports an error (`Device.exists_applied_iff`). Over a replay session that has not captured the
block as a whole, this is a matter of its lines: the block is rejected exactly if one of them is
(`Device.apply_rejected_iff`), whichever it is and whatever is answered to the others.
-/

namespace VendorCli.Device

open Text

/-- A block is taken if there is an answer to it, and no line of that reports an error. -/
theorem exists_applied_iff (d : Device) (path : Text) (lines : List Text) :
    (∃ output, d.applied path lines = .ok output) ↔
      ∃ output, d.answer (d.blockOf lines) = .ok output ∧ ¬ d.platform.dialect.Reports output := by
  simp only [applied]
  cases hanswer : d.answer (d.blockOf lines) with
  | error cause => simp
  | ok output =>
    -- an error is detected exactly if some line of the answer reports one
    have hreports : d.detectError? output = none ↔ ¬ d.platform.dialect.Reports output :=
      Dialect.detectError?_eq_none_iff
    cases hdetect : d.detectError? output with
    | none => simpa [hdetect] using hreports.mp hdetect
    | some line =>
      rw [hdetect] at hreports
      simpa [hdetect] using hreports

/-- There are lines to send if one of them is not blank. -/
theorem effectiveLines_ne_nil {lines : List Text} (h : ∃ l ∈ lines, trim l ≠ []) :
    effectiveLines lines ≠ [] := by
  obtain ⟨l, hl, hne⟩ := h
  exact List.ne_nil_of_mem
    (List.mem_filter.mpr ⟨List.mem_map_of_mem hl, decide_eq_true hne⟩)

/-- **A rejected line is never masked.** Outside of check mode, a block that was not captured as a
whole is rejected exactly if one of its lines is: by a captured answer that reports an error, or
because the line reads the state of the device and was not captured. Any other block is taken. -/
theorem apply_rejected_iff (p : Platform) (r : Replay) (hostname : Text) (path : ConfigPath)
    {lines : List Text} (hlines : ∃ l ∈ lines, trim l ≠ []) {c : WriteContext}
    (hc : c.checkMode = false)
    (hblock : r.response? (unlines (p.dialect.wrap (effectiveLines lines))) = none) :
    let result := (apply ⟨.replay r, p, hostname⟩ path lines c).1
    let rejected := ∃ line ∈ Text.lines (unlines (p.dialect.wrap (effectiveLines lines))),
      trim line ≠ [] ∧ Replay.Rejected p.dialect r line
    ((∃ e, result = .error e ∧ e.IsWriteFailed) ↔ rejected) ∧
      (¬ rejected → ∃ output, result = .ok output) := by
  intro result rejected
  let d : Device := ⟨.replay r, p, hostname⟩
  have hresult : result = d.applied path.toText (effectiveLines lines) := by
    change (d.apply path lines c).1 = _
    rw [d.apply_of_send path (effectiveLines_ne_nil hlines) hc]
  -- a session answers a block line by line, so an error in the answer is one of some line
  have htaken : (∃ output, result = .ok output) ↔ ¬ rejected := by
    rw [hresult, exists_applied_iff]
    refine (Replay.answer_accepts_iff (Dialect.marksText_dialect p) hblock).trans ?_
    simp only [rejected, Replay.commandLines, List.mem_filter, not_exists, not_and, and_imp]
    simp
  -- every failure is one of writing, so one side of the equivalence is decided by the other
  refine ⟨?_, htaken.mpr⟩
  cases happlied : result with
  | ok output =>
    refine iff_of_false ?_ (htaken.mp ⟨output, happlied⟩)
    rintro ⟨e, he, -⟩
    cases he
  | error e =>
    refine iff_of_true ⟨e, rfl, d.isWriteFailed_of_applied (hresult.symm.trans happlied)⟩ ?_
    by_contra hnot
    obtain ⟨output, houtput⟩ := htaken.mpr hnot
    rw [happlied] at houtput
    cases houtput

/-- An answer without a line feed at its end comes before one that reports an error. -/
theorem apply_rejects_mtu :
    let r := ((Replay.named "router").withResponse "interface Gi0/1" "note").withResponse
      "mtu 99999"
      "% Invalid input detected at '^' marker."
    (∃ e, (apply ⟨.replay r, .ciscoIos, "router"⟩ (Interfaces.pathOf "Gi0/1")
        ["interface Gi0/1", " ", "mtu 99999"] .sending).1 = .error e ∧ e.IsWriteFailed) ∧
      ∃ output, (apply ⟨.replay r, .ciscoIos, "router"⟩ (Interfaces.pathOf "Gi0/1")
        ["interface Gi0/1", "mtu 1500"] .sending).1 = .ok output := by
  intro r
  constructor
  · exact (apply_rejected_iff .ciscoIos r "router" (Interfaces.pathOf "Gi0/1")
      (by decide) rfl (by decide +kernel)).1.mpr (by decide +kernel)
  · exact (apply_rejected_iff .ciscoIos r "router" (Interfaces.pathOf "Gi0/1")
      (by decide) rfl (by decide +kernel)).2 (by decide +kernel)

end VendorCli.Device
