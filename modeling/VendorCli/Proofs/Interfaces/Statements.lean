import VendorCli.Proofs.Interfaces.Execution
/-!
# Statements of interfaces

On Junos, the statements of all interfaces stand in one output, and each names the interface that it
is about. A name is a word (`IsWord`): it ends where the statement goes on with a blank, so
statements about one interface say nothing about another, whatever their names have in common
(`said?_statement`).

* The statements that are written for many interfaces, put in one output, are read as the record of
  each interface that has something configured (`written_statements_read`).
* An interface is listed if some line names it, and found if some line goes on after the name with a
  space (`mem_namesIn_iff`, `found_iff`). The statement of the name alone, which is what is written
  for an interface with nothing configured, lists an interface that is not found
  (`listed_iff_found_or_mentioned`).
-/

namespace VendorCli.Interfaces

open Text Pattern

/-! ### Names -/

/-- A text that is not empty and has no blank. -/
structure IsWord (n : Text) : Prop where
  ne_nil : n ≠ []
  blankless : ∀ c ∈ n, isBlank c = false

instance (n : Text) : Decidable (IsWord n) :=
  decidable_of_iff (n ≠ [] ∧ n.all (!isBlank ·) = true)
    ⟨fun ⟨hne, hall⟩ => ⟨hne, by simpa using hall⟩,
      fun h => ⟨h.ne_nil, by simpa using h.blankless⟩⟩

/-- What an interface is named by: a statement of its name and nothing else. -/
def mention (name : Text) : Text :=
  "set " ++ ("interfaces " ++ name)

section Names

variable {n m rest : Text}

/-- A word ends with a character that is no blank. -/
theorem IsWord.ends (h : IsWord n) : Ends n := by
  obtain ⟨t, c, rfl⟩ := (List.eq_nil_or_concat' n).resolve_left h.ne_nil
  exact ⟨t, c, rfl, h.blankless c (by simp)⟩

/-- A name ends at the first blank. -/
theorem IsWord.eq_of_append_eq (hn : IsWord n) (hm : IsWord m) {r s : Text}
    (h : n ++ ' ' :: r = m ++ ' ' :: s) : n = m ∧ r = s := by
  -- up to its first blank, the text is the name
  have htake : ∀ {k t : Text}, IsWord k → (k ++ ' ' :: t).takeWhile (!isBlank ·) = k := by
    intro k t hk
    rw [List.takeWhile_append_of_pos fun c hc => by simp [hk.blankless c hc],
      List.takeWhile_cons_of_neg (by simp), List.append_nil]
  have hnames : n = m := by
    rw [← htake hn (t := r), h, htake hm]
  subst hnames
  simpa using h

/-- A statement goes on after the name that it begins with. -/
theorem statement_eq_mention (n rest : Text) :
    statement "set " n rest = mention n ++ ' ' :: rest := by
  simp [statement, mention]

/-- Statements of a name alone tell the names apart. -/
theorem mention_inj {s t : Text} (h : mention s = mention t) : s = t :=
  List.append_cancel_left (List.append_cancel_left h)

/-- What follows a name may be taken for a part of it. -/
theorem mention_append (n rest : Text) : mention (n ++ rest) = mention n ++ rest := by
  simp [mention]

end Names

/-! ### What statements say -/

/-- What a line says about an interface. -/
def said? (n line : Text) : Option Text :=
  (dropLead? (statement "set " n []) line).map trim

section Said

variable {n m rest : Text}

/-- **No interference.** What a statement says, it says about the interface that it names. -/
theorem said?_statement (hn : IsWord n) (hm : IsWord m) :
    said? n (statement "set " m rest) = if m = n then some (trim rest) else none := by
  split
  · next heq => rw [heq, statement_eq_append, said?, dropLead?_append, Option.map_some]
  · next hne =>
    rw [said?, Option.map_eq_none_iff, Option.eq_none_iff_forall_ne_some]
    intro r hr
    rw [dropLead?_eq_some_iff, ← statement_eq_append, statement_eq_mention, statement_eq_mention,
      ← mention_append, ← mention_append] at hr
    -- the first blank after the two words ends both names
    exact hne (hm.eq_of_append_eq hn (mention_inj hr)).1

/-- A statement of a name alone says nothing. -/
theorem said?_mention (hm : IsWord m) : said? n (mention m) = none := by
  rw [said?, Option.map_eq_none_iff, Option.eq_none_iff_forall_ne_some]
  intro r hr
  rw [dropLead?_eq_some_iff, ← statement_eq_append, statement_eq_mention, ← mention_append] at hr
  have hblank : isBlank ' ' = false := hm.blankless ' ' (by rw [mention_inj hr]; simp)
  cases hblank

/-- A reader of statements keeps what each of the trimmed lines says. -/
theorem under_eq (hn : IsWord n) (output : Text) :
    Statements.under ("interfaces " ++ n) output
      = (Output.trimmedLines 0 output).filterMap (said? n) := by
  have hsubtree : trim ("interfaces " ++ n) = "interfaces " ++ n :=
    trim_of_ends ⟨'i', _, rfl, rfl⟩ (hn.ends.append _)
  rw [Statements.under, Output.trimmedLines, List.drop_zero, List.filterMap_map, hsubtree]
  refine List.filterMap_congr fun line _ => ?_
  rw [Function.comp_apply, said?]
  have hlead : statement "set " n [] = "set " ++ ("interfaces " ++ n) ++ [' '] := rfl
  rw [← hlead]
  cases hdrop : dropLead? (statement "set " n []) (trim line) with
  | none => rfl
  | some rest =>
    -- the line ends with no blank, so something is left after the space
    have hne : trim rest ≠ [] := by
      intro hnil
      rw [dropLead?_eq_some_iff, ← statement_eq_append, statement_eq_mention] at hdrop
      have hlast : (trim line).getLast? = some ((' ' :: rest).getLast (List.cons_ne_nil _ _)) := by
        rw [hdrop, List.getLast?_append_of_ne_nil _ (List.cons_ne_nil _ _),
          List.getLast?_eq_some_getLast]
      have hblank : ∀ c ∈ ' ' :: rest, isBlank c = true := by
        rw [List.forall_mem_cons]
        exact ⟨rfl, trim_eq_nil_iff.mp hnil⟩
      have hnot := not_isBlank_of_getLast?_trim hlast
      rw [hblank _ (List.getLast_mem _)] at hnot
      cases hnot
    simp [hne]

end Said

/-! ### Listing and finding -/

/-- Whether a line names an interface and says nothing about it that is read: after the name it
ends, or it goes on with a blank that is no space. -/
def Mentions (n line : Text) : Prop :=
  ∃ rest, line = mention n ++ rest ∧ ∀ c, rest.head? = some c → isBlank c = true ∧ c ≠ ' '

section Listing

variable {n output : Text} {path : ConfigPath}

/-- The pattern of a name at some text in the beginning of a line. -/
def nameLine (lead : Text) : Regex :=
  ⟨ofLead lead (.plus true (.set (.compl .blank))), [(1, "name")]⟩

/-- The lines of statements are those of a name behind two words. -/
theorem statementLine_eq : statementLine = nameLine "set interfaces " := rfl

/-- The names of an output are the words that some lines go on with. -/
theorem mem_namesIn_nameLine_iff {lead : Text} : n ∈ namesIn (nameLine lead) output ↔
    IsWord n ∧ ∃ line ∈ Output.trimmedLines 0 output, ∃ rest, line = lead ++ (n ++ rest) ∧
      ∀ c, rest.head? = some c → isBlank c = true := by
  have hline : ∀ line, Output.valueOf? (nameLine lead)
      (fun c => (nameLine lead).named? c "name") line
      = runAfter? lead (fun c => !isBlank c) line := fun _ => captured_ofLead
  rw [namesIn, Output.distinctValues, mem_distinct, Output.values, List.mem_filterMap]
  constructor
  -- the capture is the run of characters behind the lead, which is the word
  · rintro ⟨line, hmem, hname⟩
    rw [hline, runAfter?_eq_some_iff] at hname
    obtain ⟨⟨hne, hall⟩, rest, hsplit, hstop⟩ := hname
    exact ⟨⟨hne, fun c hc => by simpa using hall c hc⟩, line, hmem, rest, hsplit,
      fun c hc => by simpa using hstop c hc⟩
  · rintro ⟨⟨hne, hall⟩, line, hmem, rest, hsplit, hstop⟩
    refine ⟨line, hmem, ?_⟩
    rw [hline, runAfter?_eq_some_iff]
    exact ⟨⟨hne, fun c hc => by simpa using hall c hc⟩, rest, hsplit,
      fun c hc => by simpa using hstop c hc⟩

/-- **Listed.** The names of an output are the words after the two words that begin a statement. -/
theorem mem_namesIn_iff : n ∈ namesIn statementLine output ↔
    IsWord n ∧ ∃ line ∈ Output.trimmedLines 0 output, ∃ rest, line = mention n ++ rest ∧
      ∀ c, rest.head? = some c → isBlank c = true := by
  have hmention : ∀ rest, ("set interfaces " : Text) ++ (n ++ rest) = mention n ++ rest :=
    fun rest => (mention_append n rest).symm ▸ rfl
  rw [statementLine_eq, mem_namesIn_nameLine_iff]
  simp only [hmention]

/-- The reader finds no interface exactly if nothing is said about it. -/
theorem fromStatements_eq_none_iff : fromStatements path n output = .ok none ↔
    Statements.under ("interfaces " ++ n) output = [] := by
  rw [fromStatements_eq]
  constructor
  · intro h
    -- the lines are gone through, and each says something or nothing
    split at h
    · assumption
    · obtain ⟨i, hi, -⟩ := exists_of_map_some_eq_ok h
      cases hi
  · intro h
    rw [h]

/-- **Found.** An interface is found if a line goes on after its name with a space. -/
theorem found_iff (hn : IsWord n) : fromStatements path n output ≠ .ok none ↔
    ∃ line ∈ Output.trimmedLines 0 output, ∃ rest, line = mention n ++ ' ' :: rest := by
  have hsaid : ∀ line, said? n line ≠ none ↔ ∃ rest, line = mention n ++ ' ' :: rest := by
    intro line
    rw [said?, ne_eq, Option.map_eq_none_iff, ← ne_eq, Option.ne_none_iff_exists']
    refine exists_congr fun rest => ?_
    rw [dropLead?_eq_some_iff, ← statement_eq_append, statement_eq_mention]
  rw [ne_eq, fromStatements_eq_none_iff, under_eq hn, List.filterMap_eq_nil_iff]
  constructor
  · intro h
    rw [not_forall] at h
    obtain ⟨line, h⟩ := h
    rw [Classical.not_imp] at h
    exact ⟨line, h.1, (hsaid line).mp h.2⟩
  · rintro ⟨line, hline, hsplit⟩ hnone
    exact (hsaid line).mpr hsplit (hnone line hline)

end Listing

/-! ### Written statements -/

section Written

variable {i : Interface} {n : Text}

/-- What the statements that are written for a record say. -/
def statementTexts (i : Interface) : List Text :=
  settingTexts quoted i (if i.enabled then [] else ["disable"])

/-- A record with something configured, so that its statements say something. -/
def Configured (i : Interface) : Prop :=
  i.description.isSome ∨ i.mtu.isSome ∨ i.enabled = false

instance (i : Interface) : Decidable (Configured i) :=
  inferInstanceAs (Decidable (_ ∨ _ ∨ _))

/-- Statements say nothing of a record with nothing configured. -/
theorem statementTexts_eq_nil_iff : statementTexts i = [] ↔ ¬ Configured i := by
  rw [statementTexts, settingTexts, Configured]
  cases i.description <;> cases i.mtu <;> cases i.enabled <;> simp

/-- The statements of an interface that was not there before are those for the settings of the
record. Without any, there is the statement of the name. -/
theorem statementCommands_none (i : Interface) : statementCommands none i
    = if statementTexts i = [] then [mention i.name]
      else (statementTexts i).map (statement "set " i.name) := by
  -- before the record is there, an interface counts as enabled
  have hadmin : (if ((none : Option Interface).map Interface.enabled).getD true = i.enabled then []
      else if i.enabled then [statement "delete " i.name "disable"]
      else [statement "set " i.name "disable"])
        = (if i.enabled then [] else [("disable" : Text)]).map (statement "set " i.name) := by
    cases i.enabled <;> rfl
  have hsettings : settingStatements none i
      = (statementTexts i).map (statement "set " i.name) := by
    rw [settingStatements, hadmin, earlier, earlier, Option.bind_none, Option.bind_none,
      settingLines_none, settingLines_none, statementTexts, settingTexts, List.map_append,
      List.map_append, ← Option.toList_map, ← Option.toList_map, Option.map_map, Option.map_map]
    rfl
  rw [statementCommands_eq, hsettings]
  by_cases hnil : statementTexts i = []
  · rw [if_pos hnil, hnil]
    rfl
  · rw [if_neg hnil, if_neg]
    rw [List.isEmpty_iff, List.map_eq_nil_iff]
    exact fun h => hnil h.1

/-- What is said of a record begins and ends with characters that are no blanks. -/
theorem ends_of_mem_statementTexts {t : Text} (h : t ∈ statementTexts i) :
    Begins t ∧ Ends t := by
  -- the value is behind a word, or there is only the word
  rcases eq_of_mem_settingTexts h with ⟨d, -, rfl⟩ | ⟨k, rfl⟩ | h
  · exact ⟨⟨'d', _, rfl, rfl⟩, (ends_quoted d).append _⟩
  · exact ⟨⟨'m', _, rfl, rfl⟩, (ends_digitsOf k.toNat).append _⟩
  · split at h
    · cases h
    · rw [List.mem_singleton.mp h]
      exact ⟨⟨'d', _, rfl, rfl⟩, "disabl", 'e', rfl, rfl⟩

/-- **Round trip.** The record is read off what its statements say. -/
theorem ofLines_statementTexts (path : ConfigPath) (hkind : i.kind = InterfaceKind.ofName i.name)
    (hfeed : ∀ t, i.description = some t → '\n' ∉ t) :
    ofLines path i.name unquoted "disable" (statementTexts i) = .ok i := by
  -- the parts of the record are told apart by the words that begin their texts
  refine ofLines_settingTexts hkind (fun t ht => ⟨?_, not_mem_quoted (hfeed t ht),
    unquoted_quoted t⟩) ?_ ?_ ⟨rfl, rfl⟩
  · obtain ⟨s, c, hquoted, -⟩ := ends_quoted t
    rw [hquoted]
    exact List.append_ne_nil_of_right_ne_nil _ (List.cons_ne_nil _ _)
  · cases i.enabled with
    | true => simp
    | false =>
      intro l hl
      rw [List.mem_singleton.mp hl]
      exact ⟨rfl, rfl⟩
  · cases i.enabled <;> simp

/-- Statements are neat lines. -/
theorem neat_of_mem_statementCommands (hname : IsWord i.name)
    (hfeed : ∀ t, i.description = some t → '\n' ∉ t) {l : Text}
    (h : l ∈ statementCommands none i) : Neat l := by
  have hword : '\n' ∉ i.name := by
    intro hmem
    cases hname.blankless _ hmem
  have hlast : Ends l := by
    -- a statement ends with a name or with what it says, and neither ends with a blank
    rw [statementCommands_none] at h
    split at h
    · rw [List.mem_singleton.mp h]
      exact (hname.ends.append _).append _
    · obtain ⟨t, ht, rfl⟩ := List.mem_map.mp h
      rw [statement_eq_append]
      exact (ends_of_mem_statementTexts ht).2.append _
  have hbegins : Begins l :=
    begins_of_mem_statementSlots ((statementCommands_sublist none i).subset h)
  have htrim : trim l = l := trim_of_ends hbegins hlast
  -- a quoted description has a line feed only if the description has one
  have hcommand : l ∈ commandsOf .juniperJunos none i := h
  have hone : OneLine l := oneLine_of_feedless hword hfeed l hcommand
  refine ⟨htrim, ?_, ?_⟩
  · obtain ⟨c, s, rfl, -⟩ := hbegins
    exact List.cons_ne_nil c s
  · rwa [OneLine, htrim] at hone

/-- The statements about one interface say to a reader of it what there is to say, and nothing to a
reader of another. -/
theorem filterMap_said?_statementCommands (hn : IsWord n) (hname : IsWord i.name) :
    (statementCommands none i).filterMap (said? n)
      = if i.name = n then statementTexts i else [] := by
  rw [statementCommands_none]
  split
  -- nothing is configured, and the name alone says nothing
  · next hnil =>
    rw [hnil, ite_self, List.filterMap_cons_none (said?_mention hname), List.filterMap_nil]
  · rw [List.filterMap_map]
    split
    -- the statements are about `n`, and each says what it was written for
    · next heq =>
      have hsaid : ∀ t ∈ statementTexts i,
          (said? n ∘ statement "set " i.name) t = some t := by
        intro t ht
        obtain ⟨hbegins, hends⟩ := ends_of_mem_statementTexts ht
        rw [Function.comp_apply, said?_statement hn hname, if_pos heq, trim_of_ends hbegins hends]
      rw [List.filterMap_congr hsaid, List.filterMap_some]
    -- they are about another interface
    · next hne =>
      refine List.filterMap_eq_nil_iff.mpr fun t ht => ?_
      rw [Function.comp_apply, said?_statement hn hname, if_neg hne]

/-- Of lists for different names, only that of the name itself is left. -/
theorem flatMap_ite_eq {α : Type} {names : List Text} {f : Text → List α} (hnodup : names.Nodup)
    (hn : n ∈ names) : (names.flatMap fun m => if m = n then f m else []) = f n := by
  -- the list of the name is one of those, with others before and behind it
  obtain ⟨before, after, rfl⟩ := List.append_of_mem hn
  obtain ⟨-, hafter, hdisjoint⟩ := List.nodup_append.mp hnodup
  have hother : ∀ ms : List Text, n ∉ ms →
      (ms.flatMap fun m => if m = n then f m else []) = [] := by
    intro ms hms
    refine List.flatMap_eq_nil_iff.mpr fun m hm => if_neg ?_
    rintro rfl
    exact hms hm
  have hbefore : n ∉ before := fun h => hdisjoint n h n List.mem_cons_self rfl
  rw [List.flatMap_append, List.flatMap_cons, hother before hbefore,
    hother after (List.nodup_cons.mp hafter).1, if_pos rfl, List.nil_append, List.append_nil]

/-- **Listing and reading.** An interface is listed if it is found, and also if a line names it and
says nothing about it that is read. Such a line is written for an interface with nothing configured,
which is then listed and not found. -/
theorem listed_iff_found_or_mentioned (hn : IsWord n) (path : ConfigPath) (output : Text) :
    (n ∈ namesIn statementLine output ↔ fromStatements path n output ≠ .ok none ∨
      ∃ line ∈ Output.trimmedLines 0 output, Mentions n line) ∧
    ∀ i : Interface, i.name = n → ¬ Configured i → statementCommands none i = [mention n] ∧
      n ∈ namesIn statementLine (unlines (statementCommands none i)) ∧
      fromStatements path n (unlines (statementCommands none i)) = .ok none := by
  constructor
  · rw [mem_namesIn_iff, found_iff hn]
    constructor
    · rintro ⟨-, line, hline, rest, hsplit, hstop⟩
      -- what follows the name is nothing, a space, or another blank
      by_cases hspace : rest.head? = some ' '
      · obtain ⟨rest, rfl⟩ := List.head?_eq_some_iff.mp hspace
        exact .inl ⟨line, hline, rest, hsplit⟩
      · refine .inr ⟨line, hline, rest, hsplit, fun c hc => ⟨hstop c hc, ?_⟩⟩
        rintro rfl
        exact hspace hc
    · rintro (⟨line, hline, rest, hsplit⟩ | ⟨line, hline, rest, hsplit, hstop⟩)
      -- the name ends where the line goes on with a space
      · refine ⟨hn, line, hline, ' ' :: rest, hsplit, fun c hc => ?_⟩
        cases hc
        rfl
      · exact ⟨hn, line, hline, rest, hsplit, fun c hc => (hstop c hc).1⟩
  · -- the statement that is written is such a line, and the only one
    rintro i rfl hnothing
    have hcommands : statementCommands none i = [mention i.name] := by
      rw [statementCommands_none, if_pos (statementTexts_eq_nil_iff.mpr hnothing)]
    have hneat : Neat (mention i.name) :=
      neat_of_mem_statementCommands hn (fun t ht => absurd (.inl (by rw [ht]; rfl)) hnothing)
        (by rw [hcommands]; exact List.mem_singleton_self _)
    have hlines : Output.trimmedLines 0 (unlines [mention i.name]) = [mention i.name] :=
      trimmedLines_unlines (by simpa using hneat)
    refine ⟨hcommands, ?_, ?_⟩
    · rw [hcommands, mem_namesIn_iff, hlines]
      exact ⟨hn, _, List.mem_singleton_self _, [], (List.append_nil _).symm, by simp⟩
    · rw [hcommands, fromStatements_eq_none_iff, under_eq hn, hlines,
        List.filterMap_cons_none (said?_mention hn), List.filterMap_nil]

/-- The loopback interface, named by a statement and not configured. -/
theorem loopback_listed :
    ("lo0" : Text) ∈ namesIn statementLine "set interfaces lo0\nset interfaces ge-0/0/0 mtu 1500" ∧
      fromStatements (pathOf "lo0") "lo0"
        (unlines (statementCommands none (Interface.named "lo0"))) = .ok none := by
  have hword : IsWord "lo0" := by decide
  obtain ⟨hlisted, hwritten⟩ := listed_iff_found_or_mentioned hword (pathOf "lo0")
    "set interfaces lo0\nset interfaces ge-0/0/0 mtu 1500"
  have hmention : mention "lo0" ∈ Output.trimmedLines 0
      "set interfaces lo0\nset interfaces ge-0/0/0 mtu 1500" := by decide +kernel
  constructor
  · exact hlisted.mpr (.inr ⟨_, hmention, [], (List.append_nil _).symm, by simp⟩)
  · exact (hwritten (Interface.named "lo0") rfl (by simp [Configured, Interface.named])).2.2

/-- **A name alone is listed and not found**, although it is the statement that is written to create
an interface with nothing configured. -/
theorem name_alone_not_found :
    statementCommands none (Interface.named "lo0") = ["set interfaces lo0"] ∧
      ¬ (("lo0" : Text) ∈ namesIn statementLine "set interfaces lo0" ↔
        fromStatements (pathOf "lo0") "lo0" "set interfaces lo0" ≠ .ok none) := by
  have hlisted : ("lo0" : Text) ∈ namesIn statementLine "set interfaces lo0" := by decide +kernel
  have hfound : fromStatements (pathOf "lo0") "lo0" "set interfaces lo0" = .ok none := by
    decide +kernel
  exact ⟨rfl, fun h => h.mp hlisted hfound⟩

/-- **Written statements are read.** Take interfaces that are listed and found in an output, and the
statements that create each of them as it was read. In an output of all these statements, each
interface that has something configured is found as it was. -/
theorem written_statements_read {output : Text} {names : List Text} {record : Text → Interface}
    {path : Text → ConfigPath} (hnodup : names.Nodup)
    (hlisted : ∀ n ∈ names, n ∈ namesIn statementLine output)
    (hread : ∀ n ∈ names, fromStatements (path n) n output = .ok (some (record n))) :
    ∀ n ∈ names, Configured (record n) → fromStatements (path n) n
      (unlines (names.flatMap fun m => statementCommands none (record m)))
        = .ok (some (record n)) := by
  intro n hn hconfigured
  have hword : ∀ m ∈ names, IsWord m := fun m hm => (mem_namesIn_iff.mp (hlisted m hm)).1
  have hname : ∀ m ∈ names, (record m).name = m := fun m hm =>
    (fromStatements_spec (hread m hm)).1
  -- the statements are cut apart again as they were written
  have hneat : ∀ l ∈ names.flatMap fun m => statementCommands none (record m), Neat l := by
    intro l hl
    obtain ⟨m, hm, hl⟩ := List.mem_flatMap.mp hl
    refine neat_of_mem_statementCommands ?_ (fromStatements_spec (hread m hm)).2.2 hl
    rw [hname m hm]
    exact hword m hm
  have hlines : Output.trimmedLines 0
      (unlines (names.flatMap fun m => statementCommands none (record m)))
        = names.flatMap fun m => statementCommands none (record m) :=
    trimmedLines_unlines hneat
  -- and of all of them only those about `n` say something to its reader
  have hunder : Statements.under ("interfaces " ++ n)
      (unlines (names.flatMap fun m => statementCommands none (record m)))
        = statementTexts (record n) := by
    have hsaid : ∀ m ∈ names, (statementCommands none (record m)).filterMap (said? n)
        = if m = n then statementTexts (record m) else [] := by
      intro m hm
      rw [filterMap_said?_statementCommands (hword n hn) (by rw [hname m hm]; exact hword m hm),
        hname m hm]
    rw [under_eq (hword n hn), hlines, List.filterMap_flatMap, List.flatMap_congr hsaid,
      flatMap_ite_eq hnodup hn]
  -- the record is read off the statements about it
  have hrecord : ofLines (path n) n unquoted "disable" (statementTexts (record n))
      = .ok (record n) := by
    obtain ⟨hsame, hkind, hfeed⟩ := fromStatements_spec (hread n hn)
    have hround := ofLines_statementTexts (path n)
      (hkind.trans (congrArg InterfaceKind.ofName hsame.symm)) hfeed
    rwa [hsame] at hround
  rw [fromStatements_eq, hunder]
  split
  -- a record with something configured has statements that say something
  · next hnil => exact absurd hconfigured (statementTexts_eq_nil_iff.mp hnil)
  · rw [hrecord]
    rfl

end Written

/-- Interfaces whose names share a prefix, the description of the one looking like a statement about
the other. -/
theorem written_statements_read_prefix :
    let record : Text → Interface := fun n =>
      if n = "ge-0/0/3" then
        { Interface.named n with description := some "set interfaces ge-0/0/30 mtu 1" }
      else { Interface.named n with mtu := some 9000, enabled := false }
    let names : List Text := ["ge-0/0/3", "ge-0/0/30"]
    ∀ n ∈ names, fromStatements (pathOf n) n
      (unlines (names.flatMap fun m => statementCommands none (record m)))
        = .ok (some (record n)) := by
  intro record names n hn
  let output : Text := "set interfaces ge-0/0/30 disable\n"
    ++ "set interfaces ge-0/0/3 description \"set interfaces ge-0/0/30 mtu 1\"\n"
    ++ "set interfaces ge-0/0/30 mtu 9000"
  have hlisted : ∀ n ∈ names, n ∈ namesIn statementLine output := by decide +kernel
  have hread : ∀ n ∈ names, fromStatements (pathOf n) n output = .ok (some (record n)) := by
    decide +kernel
  have hconfigured : ∀ n ∈ names, Configured (record n) := by decide +kernel
  exact written_statements_read (by decide) hlisted hread n hn (hconfigured n hn)

end VendorCli.Interfaces
