import VendorCli.Proofs.Section.Nesting
/-!
# Reading sections in one pass

Sections can be built while the lines of a text go by. The sections that are still open form a stack
with the innermost on top. A line closes those that are not indented less than it, from the top, and
is then opened itself; at the end all are closed. A section that is closed is put into the one
around it, or among the finished ones.

This gives the sections that `nest` gives (`finish_run`). The proof follows the innermost open
section: by the time it is closed, it has been given the lines that are indented further, nested, up
to the first line that is not (`finish_run_cons`).
-/

namespace VendorCli.Section

/-- Reading in the middle of a text: the open sections, the innermost first, and the top-level
sections that are finished. -/
structure Pass where
  opened : List Section
  finished : List Section

namespace Pass

/-- A section that is closed goes into the one around it, after what is there already. -/
def put (s : Section) : Pass → Pass
  | ⟨[], finished⟩ => ⟨[], finished ++ [s]⟩
  | ⟨⟨line, indent, children⟩ :: around, finished⟩ =>
    ⟨⟨line, indent, children ++ [s]⟩ :: around, finished⟩

/-- Closing a section leaves as many open ones around it. -/
theorem length_opened_put (s : Section) (r : Pass) : (r.put s).opened.length = r.opened.length := by
  obtain ⟨opened, finished⟩ := r
  cases opened with
  | nil => rfl
  | cons outer around =>
    obtain ⟨line, indent, children⟩ := outer
    rfl

/-- Close open sections from the innermost on, as long as they are indented as `p` says. -/
def closeWhile (p : Nat → Bool) (r : Pass) : Pass :=
  match r with
  | ⟨[], finished⟩ => ⟨[], finished⟩
  | ⟨s :: around, finished⟩ =>
    if p s.indent then closeWhile p (put s ⟨around, finished⟩) else ⟨s :: around, finished⟩
termination_by r.opened.length
decreasing_by
  rw [length_opened_put]
  exact Nat.lt_succ_self _

/-- Read one line. -/
def step (r : Pass) (l : KeptLine) : Pass :=
  let outer := r.closeWhile (l.1 ≤ ·)
  ⟨⟨l.2, l.1, []⟩ :: outer.opened, outer.finished⟩

/-- Read several lines. -/
def run (r : Pass) (ls : List KeptLine) : Pass :=
  ls.foldl step r

/-- Close all that is open at the end of the text. -/
def finish (r : Pass) : List Section :=
  (r.closeWhile fun _ => true).finished

variable {l : KeptLine} {ls : List KeptLine} {s : Section} {around finished : List Section}

/-- A section that is indented so is closed, and the next one is looked at. -/
theorem closeWhile_pos {p : Nat → Bool} (h : p s.indent = true) :
    closeWhile p ⟨s :: around, finished⟩ = closeWhile p (put s ⟨around, finished⟩) := by
  rw [closeWhile, if_pos h]

/-- Closing stops at a section that is not. -/
theorem closeWhile_neg {p : Nat → Bool} (h : p s.indent = false) :
    closeWhile p ⟨s :: around, finished⟩ = ⟨s :: around, finished⟩ := by
  rw [closeWhile, if_neg (by simp [h])]

/-- A line that is indented further is opened inside the innermost section. -/
theorem step_of_lt (h : s.indent < l.1) :
    step ⟨s :: around, finished⟩ l = ⟨⟨l.2, l.1, []⟩ :: s :: around, finished⟩ := by
  rw [step, closeWhile_neg (by simpa using h)]

/-- Any other line closes the innermost section. -/
theorem step_of_le (h : l.1 ≤ s.indent) :
    step ⟨s :: around, finished⟩ l = step (put s ⟨around, finished⟩) l := by
  rw [step, step, closeWhile_pos (by simpa using h)]

theorem run_cons (r : Pass) (l : KeptLine) (ls : List KeptLine) :
    run r (l :: ls) = run (r.step l) ls := rfl

/-- **The innermost section** is closed once it has all that is indented further, nested. -/
theorem finish_run_cons {line : Text} {indent : Nat} {children : List Section} :
    finish (run ⟨⟨line, indent, children⟩ :: around, finished⟩ ls)
      = finish (run (put ⟨line, indent, children ++ nest (ls.takeWhile fun k => indent < k.1)⟩
          ⟨around, finished⟩) (ls.dropWhile fun k => indent < k.1)) := by
  -- on the number of lines, for every stack of open sections
  induction hn : ls.length using Nat.strongRecOn generalizing ls line indent children around with
  | _ n ih =>
    cases ls with
    -- at the end of the text all is closed, this section first
    | nil =>
      rw [List.takeWhile_nil, List.dropWhile_nil, nest_nil, List.append_nil]
      exact congrArg Pass.finished (closeWhile_pos rfl)
    | cons l ls =>
      by_cases h : indent < l.1
      · let taken : List KeptLine := ls.takeWhile fun k => l.1 < k.1
        let left : List KeptLine := ls.dropWhile fun k => l.1 < k.1
        have hsplit : ls = taken ++ left := List.takeWhile_append_dropWhile.symm
        have htaken : ∀ k ∈ taken, l.1 < k.1 := fun k hk => by
          simpa using List.mem_takeWhile_imp hk
        have hinner : ∀ k ∈ taken, decide (indent < k.1) = true := fun k hk =>
          decide_eq_true (h.trans (htaken k hk))
        -- what the section takes is the line with what that takes, and some of what it leaves
        have htake : nest ((l :: ls).takeWhile fun k => indent < k.1)
            = ⟨l.2, l.1, nest taken⟩ :: nest (left.takeWhile fun k => indent < k.1) := by
          rw [List.takeWhile_cons_of_pos (by simpa using h), hsplit,
            List.takeWhile_append_of_pos hinner]
          refine nest_cons_append htaken fun first hfirst => ?_
          rw [List.head?_takeWhile] at hfirst
          exact le_of_mem_head?_dropWhile (Option.mem_filter_iff.mp hfirst).1
        have hdrop : ((l :: ls).dropWhile fun k => indent < k.1)
            = left.dropWhile fun k => indent < k.1 := by
          rw [List.dropWhile_cons_of_pos (by simpa using h), hsplit,
            List.dropWhile_append_of_pos hinner]
        have hls : ls.length < n := by
          rw [← hn, List.length_cons]
          exact Nat.lt_succ_self _
        have hleft : left.length < n := hn ▸ length_dropWhile_lt ls
        calc finish (run ⟨⟨line, indent, children⟩ :: around, finished⟩ (l :: ls))
            = finish (run ⟨⟨l.2, l.1, []⟩ :: ⟨line, indent, children⟩ :: around, finished⟩ ls) := by
              rw [run_cons, step_of_lt h]
          _ = finish (run ⟨⟨line, indent, children ++ [⟨l.2, l.1, nest taken⟩]⟩ :: around, finished⟩
                left) := by
              rw [ih _ hls rfl]
              rfl
          _ = _ := by
              rw [ih _ hleft rfl, htake, hdrop, List.append_assoc]
              rfl
      · -- the line is not indented further, so it closes the section
        rw [run_cons, step_of_le (by simpa using h), ← run_cons,
          List.takeWhile_cons_of_neg (by simpa using h),
          List.dropWhile_cons_of_neg (by simpa using h),
          nest_nil, List.append_nil]

/-- **One pass.** Reading line by line finishes the sections that the lines are nested into. -/
theorem finish_run (finished : List Section) (ls : List KeptLine) :
    finish (run ⟨[], finished⟩ ls) = finished ++ nest ls := by
  -- on the number of lines: the first one opens a section, which takes what is indented further
  induction hn : ls.length using Nat.strongRecOn generalizing ls finished with
  | _ n ih =>
    cases ls with
    | nil =>
      have hnothing : closeWhile (fun _ => true) ⟨[], finished⟩ = ⟨[], finished⟩ := by
        rw [closeWhile]
      rw [nest_nil, List.append_nil]
      exact congrArg Pass.finished hnothing
    | cons l ls =>
      have hopen : step ⟨[], finished⟩ l = ⟨[⟨l.2, l.1, []⟩], finished⟩ := by
        rw [step, closeWhile]
      rw [run_cons, hopen, finish_run_cons, put, ih _ (hn ▸ length_dropWhile_lt ls) _ _ rfl,
        nest_cons,
        List.append_assoc]
      rfl

/-- So a configuration can be read in one pass. -/
theorem ofConfig_eq_finish_run (config : Text) :
    ofConfig config = finish (run ⟨[], []⟩ (keptLines config)) := by
  rw [finish_run, ofConfig, List.nil_append]

end Pass

end VendorCli.Section
