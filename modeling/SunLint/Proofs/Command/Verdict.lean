import Mathlib.Data.List.Basic
import SunLint.Command.Run
import SunLint.Proofs.Parser.Cap

/-!
# The verdict under a cap

Warnings and errors share the room that the cap leaves, and parsing stops when it is
used up. So the verdict on a text depends on the cap, if warnings take all the room
before the first error. A smaller cap can only make it milder.

* `exit_eq_zero_iff`: when a check succeeds;
* `verdict_of_cap`: how the verdicts under two caps are related, for a text and for a
  run of the program over files;
* `verdict_changed`: a text that is accepted under a cap of one, and rejected under a
  cap of two.
-/

namespace SunLint

/-! ## Texts -/

/-- A text is rejected for a lexical error, or for a syntax error that is no warning. -/
theorem Errors.areGrave_iff (errors : Errors) : errors.areGrave ↔
    errors.lexical ≠ [] ∨ ∃ e ∈ errors.syntactic, e.severity = .error := by
  simp [Errors.areGrave]

variable {dictionary : Dictionary} {settings : Settings} {source : String} {n m : Nat}

/-- The errors that are found under two caps: the lexical ones do not depend on the cap,
    and of the syntax errors the first ones are found under both. -/
theorem analyze_prefix (dictionary : Dictionary) (settings : Settings) (source : String)
    (hle : n ≤ m) :
    ∃ small large,
      analyze dictionary { settings with maxErrors := n } source = .ok small ∧
      analyze dictionary { settings with maxErrors := m } source = .ok large ∧
      small.lexical = large.lexical ∧ small.syntactic = large.syntactic.take n := by
  have h := isTerminated_tokenize source
  rw [TokenStream.isTerminated, decide_eq_true_eq] at h
  obtain ⟨small, large, hsmall, hlarge, herrors⟩ :=
    Parser.parse_prefix (some source) dictionary settings h hle
  refine ⟨⟨(tokenize source).errors, small.errors⟩, ⟨(tokenize source).errors, large.errors⟩,
    ?_, ?_, rfl, herrors⟩
  · simp only [analyze, hsmall]
  · simp only [analyze, hlarge]

/-- Errors of which the syntax errors are cut off are no graver. -/
theorem Errors.areGrave_of_take {small large : Errors} (hlexical : small.lexical = large.lexical)
    (hsyntactic : small.syntactic = large.syntactic.take n) (h : small.areGrave) :
    large.areGrave := by
  rw [areGrave_iff, hlexical, hsyntactic] at h
  rw [areGrave_iff]
  exact h.imp_right fun ⟨e, he, hgrave⟩ => ⟨e, List.mem_of_mem_take he, hgrave⟩

/-- Errors of which the syntax errors are cut off are less grave if what is cut off is all
    that is grave. -/
theorem Errors.areGrave_ne_iff {small large : Errors} (hlexical : small.lexical = large.lexical)
    (hsyntactic : small.syntactic = large.syntactic.take n) :
    small.areGrave ≠ large.areGrave ↔ large.lexical = [] ∧
      (∀ e ∈ large.syntactic.take n, e.severity ≠ .error) ∧
      ∃ e ∈ large.syntactic.drop n, e.severity = .error := by
  have hmono := areGrave_of_take hlexical hsyntactic
  have hdiffer : small.areGrave ≠ large.areGrave ↔ ¬small.areGrave ∧ large.areGrave := by
    cases hs : small.areGrave <;> cases hl : large.areGrave <;> simp_all
  rw [hdiffer, areGrave_iff, areGrave_iff, hlexical, hsyntactic]
  -- An error behind the cap counts for the larger verdict only.
  have hsplit : (∃ e ∈ large.syntactic, e.severity = .error) ↔
      (∃ e ∈ large.syntactic.take n, e.severity = .error) ∨
        ∃ e ∈ large.syntactic.drop n, e.severity = .error := by
    conv_lhs => rw [← List.take_append_drop n large.syntactic]
    simp only [List.mem_append, or_and_right, exists_or]
  rw [hsplit]
  grind

/-! ## Runs of the program -/

namespace Command

/-- The check of a file rejects the text. -/
def Rejects (settings : Settings) (text : String) : Prop :=
  ∃ errors, analyze .builtin settings text = .ok errors ∧ errors.areGrave

theorem Rejects.mono {text : String} (hle : n ≤ m)
    (h : Rejects { settings with maxErrors := n } text) :
    Rejects { settings with maxErrors := m } text := by
  obtain ⟨small, large, hsmall, hlarge, hlexical, hsyntactic⟩ :=
    analyze_prefix .builtin settings text hle
  obtain ⟨errors, herrors, hgrave⟩ := h
  obtain rfl := Except.ok.inj (hsmall.symm.trans herrors)
  exact ⟨large, hlarge, Errors.areGrave_of_take hlexical hsyntactic hgrave⟩

theorem rejects_iff {text : String} {errors : Errors}
    (h : analyze .builtin settings text = .ok errors) :
    Rejects settings text ↔ errors.areGrave := by
  refine ⟨?_, fun hgrave => ⟨errors, h, hgrave⟩⟩
  rintro ⟨errors', h', hgrave⟩
  rwa [Except.ok.inj (h.symm.trans h')]

variable {system : System Id} {i : Invocation} {files : List String}

/-- What is read from the first file comes before what is read from the others. -/
theorem readSources_cons (system : System Id) (settings : Settings) (file : String)
    (files : List String) : (readSources system settings (file :: files)).run =
      match (system.files.read file).run with
      | .error fault => .error ("cannot read " ++ file ++ ": " ++ fault.message)
      | .ok text => match analyze .builtin settings text with
        | .error fault => .error (file ++ ": " ++ fault.message)
        | .ok errors =>
          (readSources system settings files).run.map (⟨file, text, errors⟩ :: ·) := by
  rw [readSources]
  cases system.files.read file with
  | error fault => rfl
  | ok text =>
    change (match analyze .builtin settings text with | .error _ => _ | .ok _ => _) =
      match analyze .builtin settings text with | .error _ => _ | .ok _ => _
    cases analyze .builtin settings text with
    | error fault => rfl
    | ok errors => rfl

/-- All files are read and no text is rejected, if this holds of each file. -/
theorem readSources_accepted_iff (system : System Id) (settings : Settings)
    (files : List String) :
    (∃ sources, (readSources system settings files).run = .ok sources ∧
      sources.countP (·.errors.areGrave) = 0) ↔
    ∀ file ∈ files, ∃ text,
      (system.files.read file).run = .ok text ∧ ¬Rejects settings text := by
  induction files with
  | nil => exact ⟨fun _ _ hfile => absurd hfile List.not_mem_nil, fun _ => ⟨[], rfl, rfl⟩⟩
  | cons file files ih =>
    rw [readSources_cons, List.forall_mem_cons, ← ih]
    cases (system.files.read file).run with
    | error fault => simp
    | ok text =>
      obtain ⟨errors, -, herrors, -⟩ :=
        analyze_prefix .builtin settings text (Nat.le_refl settings.maxErrors)
      have hrejects := rejects_iff herrors
      simp only [herrors]
      cases (readSources system settings files).run with
      | error message => simp [Except.map]
      | ok sources => simp [Except.map, hrejects]

/-- The check of the files under a cap. -/
def checkUnder (i : Invocation) (files : List String) (plain : Bool) (cap : Nat) : Invocation :=
  { i with maxErrors := some cap, action := .check files plain }

/-- The settings for a check are those for the invocation, but for the cap. -/
theorem settingsFor_checkUnder (plain : Bool) (cap : Nat) :
    (settingsFor system (checkUnder i files plain cap)).run =
      (settingsFor system i).run.map ({ · with maxErrors := cap }) := by
  rw [settingsFor, settingsFor, checkUnder]
  cases i.config with
  | some path =>
    change Except.map _ (readSettings system path).run =
      Except.map _ (Except.map _ (readSettings system path).run)
    cases (readSettings system path).run <;> rfl
  | none =>
    cases system.files.isFile defaultConfig with
    | false => rfl
    | true =>
      change Except.map _ (readSettings system defaultConfig).run =
        Except.map _ (Except.map _ (readSettings system defaultConfig).run)
      cases (readSettings system defaultConfig).run <;> rfl

theorem exit_check (system : System Id) (i : Invocation) (settings : Settings) (plain : Bool)
    (sources : List Source) : (check system i settings plain sources).run.exit =
      if sources.countP (·.errors.areGrave) = 0 then 0 else 1 := by
  rw [check]
  cases i.quiet with
  | true => rfl
  | false => cases i.output <;> rfl

/-- The exit status of a check. -/
theorem exit_run_checkUnder (system : System Id) (i : Invocation) (files : List String)
    (plain : Bool) (cap : Nat) : (run system (checkUnder i files plain cap)).run.exit =
      match (settingsFor system i).run.map ({ · with maxErrors := cap }) with
      | .error _ => 1
      | .ok settings => match (readSources system settings files).run with
        | .error _ => 1
        | .ok sources => if sources.countP (·.errors.areGrave) = 0 then 0 else 1 := by
  rw [← settingsFor_checkUnder, run]
  cases settingsFor system (checkUnder i files plain cap) with
  | error message => rfl
  | ok settings =>
    change Outcome.exit (match (readSources system settings files).run with
      | .error _ => _ | .ok _ => _) =
      match (readSources system settings files).run with | .error _ => _ | .ok _ => _
    cases (readSources system settings files).run with
    | error message => rfl
    | ok sources => exact exit_check system _ settings plain sources

/-- A check succeeds if the settings and all files can be read, and no text is rejected. -/
theorem exit_eq_zero_iff (plain : Bool) (cap : Nat) :
    (run system (checkUnder i files plain cap)).run.exit = 0 ↔
      ∃ settings, (settingsFor system i).run = .ok settings ∧ ∀ file ∈ files, ∃ text,
        (system.files.read file).run = .ok text ∧
        ¬Rejects { settings with maxErrors := cap } text := by
  rw [exit_run_checkUnder]
  simp only [← readSources_accepted_iff]
  cases (settingsFor system i).run with
  | error message => simp [Except.map]
  | ok settings =>
    simp only [Except.map, Except.ok.injEq, exists_eq_left']
    cases (readSources system { settings with maxErrors := cap } files).run <;> simp

/-- A check ends with the status 0 or 1. -/
theorem exit_le_one (plain : Bool) (cap : Nat) :
    (run system (checkUnder i files plain cap)).run.exit ≤ 1 := by
  rw [exit_run_checkUnder]
  split
  · exact Nat.le_refl 1
  · split
    · exact Nat.le_refl 1
    · split <;> decide

theorem exit_le {n m : Nat} (plain : Bool) (hle : n ≤ m) :
    (run system (checkUnder i files plain n)).run.exit ≤
      (run system (checkUnder i files plain m)).run.exit := by
  rcases Nat.eq_zero_or_pos (run system (checkUnder i files plain m)).run.exit with h | h
  · -- What is accepted under the larger cap is accepted under the smaller one.
    obtain ⟨settings, hsettings, hfiles⟩ := (exit_eq_zero_iff plain m).1 h
    have hn := (exit_eq_zero_iff plain n).2 ⟨settings, hsettings, fun file hfile =>
      (hfiles file hfile).imp fun text htext => ⟨htext.1, fun hr => htext.2 (hr.mono hle)⟩⟩
    exact Nat.le_of_eq (hn.trans h.symm)
  · exact Nat.le_trans (exit_le_one plain n) h

/-- If the cap makes a difference to a check, it makes one to the verdict on a file. -/
theorem exists_rejects_of_exit_ne {n m : Nat} {plain : Bool} (hle : n ≤ m)
    (hne : (run system (checkUnder i files plain n)).run.exit ≠
      (run system (checkUnder i files plain m)).run.exit) :
    ∃ settings, (settingsFor system i).run = .ok settings ∧ ∃ file ∈ files, ∃ text,
      (system.files.read file).run = .ok text ∧
      ¬Rejects { settings with maxErrors := n } text ∧
      Rejects { settings with maxErrors := m } text := by
  have hn : (run system (checkUnder i files plain n)).run.exit = 0 := by
    have hlt := Nat.lt_of_le_of_ne (exit_le plain hle) hne
    exact Nat.lt_one_iff.1 (Nat.lt_of_lt_of_le hlt (exit_le_one plain m))
  obtain ⟨settings, hsettings, hfiles⟩ := (exit_eq_zero_iff plain n).1 hn
  refine ⟨settings, hsettings, ?_⟩
  by_contra hnone
  -- Otherwise no file is rejected under the larger cap either.
  have hm : (run system (checkUnder i files plain m)).run.exit = 0 := by
    refine (exit_eq_zero_iff plain m).2 ⟨settings, hsettings, fun file hfile => ?_⟩
    obtain ⟨text, htext, haccepted⟩ := hfiles file hfile
    exact ⟨text, htext, fun hr => hnone ⟨file, hfile, text, htext, haccepted, hr⟩⟩
  exact hne (hn.trans hm.symm)

/-- A smaller cap never makes the verdict on a text harsher: the errors found under it are
    the first ones of those found under a larger cap, and the verdicts differ just if there
    is no lexical error and no error at all, but warnings only, up to the smaller cap, and
    an error behind it. So a check that fails under the smaller cap fails under the larger
    one, and its exit status depends on the cap only by the verdict on some file. -/
theorem verdict_of_cap (dictionary : Dictionary) (settings : Settings) (source : String)
    {n m : Nat} (hle : n ≤ m) :
    (∃ small large,
      analyze dictionary { settings with maxErrors := n } source = .ok small ∧
      analyze dictionary { settings with maxErrors := m } source = .ok large ∧
      small.lexical = large.lexical ∧ small.syntactic = large.syntactic.take n ∧
      (small.areGrave → large.areGrave) ∧
      (small.areGrave ≠ large.areGrave ↔ large.lexical = [] ∧
        (∀ e ∈ large.syntactic.take n, e.severity ≠ .error) ∧
        ∃ e ∈ large.syntactic.drop n, e.severity = .error)) ∧
    ∀ (system : System Id) (i : Invocation) (files : List String) (plain : Bool),
      (run system (checkUnder i files plain n)).run.exit ≤
        (run system (checkUnder i files plain m)).run.exit ∧
      ((run system (checkUnder i files plain n)).run.exit ≠
          (run system (checkUnder i files plain m)).run.exit →
        ∃ settings, (settingsFor system i).run = .ok settings ∧ ∃ file ∈ files, ∃ text,
          (system.files.read file).run = .ok text ∧
          ¬Rejects { settings with maxErrors := n } text ∧
          Rejects { settings with maxErrors := m } text) := by
  refine ⟨?_, fun system i files plain => ⟨exit_le plain hle, exists_rejects_of_exit_ne hle⟩⟩
  obtain ⟨small, large, hsmall, hlarge, hlexical, hsyntactic⟩ :=
    analyze_prefix dictionary settings source hle
  exact ⟨small, large, hsmall, hlarge, hlexical, hsyntactic,
    Errors.areGrave_of_take hlexical hsyntactic, Errors.areGrave_ne_iff hlexical hsyntactic⟩

/-- A misspelled keyword and then a binding without a name. The error is the second of two,
    so that under a cap of one the warning is all that is found. -/
theorem verdict_of_cap_of_misspelling : ∃ small large, 1 ≤ 2 ∧
    analyze .builtin { maxErrors := 1 } "fucntion f() \x7b\x7d\nlet = 1\n" = .ok small ∧
    analyze .builtin { maxErrors := 2 } "fucntion f() \x7b\x7d\nlet = 1\n" = .ok large ∧
    large.syntactic.map (·.severity) = [.warning, .error] ∧
    small.syntactic = large.syntactic.take 1 ∧ small.areGrave ≠ large.areGrave := by
  obtain ⟨⟨small, large, hsmall, hlarge, -, hsyntactic, -, hdiffer⟩, -⟩ :=
    verdict_of_cap .builtin {} "fucntion f() \x7b\x7d\nlet = 1\n" (show 1 ≤ 2 by decide)
  have hlexical : (analyze .builtin { maxErrors := 2 }
      "fucntion f() \x7b\x7d\nlet = 1\n").toOption.map (·.lexical.length) = some 0 := by
    decide +kernel
  have hseverities : (analyze .builtin { maxErrors := 2 }
      "fucntion f() \x7b\x7d\nlet = 1\n").toOption.map (·.syntactic.map (·.severity)) =
        some [.warning, .error] := by
    decide +kernel
  rw [hlarge] at hlexical hseverities
  have hmap := Option.some.inj hseverities
  refine ⟨small, large, by decide, hsmall, hlarge, hmap, hsyntactic,
    hdiffer.2 ⟨List.length_eq_zero_iff.1 (Option.some.inj hlexical), ?_⟩⟩
  obtain ⟨warning, error, hboth⟩ := List.length_eq_two.1 (by simpa using congrArg List.length hmap)
  simp_all

/-- A system on which every file holds the text, and there are no settings. -/
def uniform (text : String) : System Id where
  files :=
    { read _ := .ok text
      write _ _ := .ok ()
      isFile _ := false }
  now := ""
  onTerminal := false
  serve _ := none

/-- The verdict on that text does depend on the cap, and so does the exit status of a check
    of a file that holds it. -/
theorem verdict_changed :
    (analyze .builtin { maxErrors := 1 }
      "fucntion f() \x7b\x7d\nlet = 1\n").toOption.map (·.areGrave) = some false ∧
    (analyze .builtin { maxErrors := 2 }
      "fucntion f() \x7b\x7d\nlet = 1\n").toOption.map (·.areGrave) = some true ∧
    (run (uniform "fucntion f() \x7b\x7d\nlet = 1\n")
      { maxErrors := some 1, action := .check ["a.sun"] true }).run.exit = 0 ∧
    (run (uniform "fucntion f() \x7b\x7d\nlet = 1\n")
      { maxErrors := some 2, action := .check ["a.sun"] true }).run.exit = 1 := by
  decide +kernel

end Command

end SunLint
