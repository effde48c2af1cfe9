import SunLint.Proofs.Parser.Coupled

/-!
# Delimiters that are left out

Of a list that is parsed without an error, the opening brace of a function or a component
is left out, or the `then` of a condition (`Omission`). The runs on both lists go side by
side up to the keyword that asks for the delimiter, then through the header behind it, and
in the end behind the gap, where the second run has recorded one error. The keyword is found
by looking back over the header (`Lacks.lacking?_eq_some`), whatever comes before it.

* `complete_omission`: the runs in front of the keyword and behind the gap, as a coupling;
* `parse_of_omission`: the second list has the same items, and one error.
-/

namespace SunLint

open Recovery

/-- A place in a list of tokens where the delimiter may be left out that the header of a
    construct asks for. -/
structure Omission where
  before : List Token
  /-- The keyword of the construct. -/
  opener : Token
  header : List Token
  delimiter : Token
  next : Token
  rest : List Token

namespace Omission

/-- The list with the delimiter. -/
def whole (o : Omission) : List Token :=
  o.before ++ o.opener :: (o.header ++ o.delimiter :: o.next :: o.rest)

/-- The list without it. -/
def lacking (o : Omission) : List Token := o.before ++ o.opener :: (o.header ++ o.next :: o.rest)

/-- The delimiter is the first of its kind behind the keyword. Without it, the keyword is near
    enough to what comes next to see what is missing. -/
structure Lacks (o : Omission) (lookbehind : Nat) (opening ending : Kind) : Prop where
  opener : o.opener.kind = opening
  delimiter : o.delimiter.kind = ending
  header : ∀ t ∈ o.header, t.kind ≠ ending
  near : o.header.length + 1 ≤ lookbehind

/-- What comes next is not taken for the delimiter or for a part of the header. -/
inductive IsApparent (o : Omission) (lookbehind : Nat) : ErrorCode → Prop
  | brace {form : Callable.Form} (h : o.Lacks lookbehind form.kind .leftBrace)
    (hbrace : o.next.kind ≠ .leftBrace)
    (hparen : o.next.kind = .leftParen → ∃ t ∈ o.header, t.kind = .leftParen) :
    IsApparent o lookbehind .missingOpenBrace
  | result (h : o.Lacks lookbehind .whenKw .thenKw) (hcontinues : ¬ o.next.Continues) :
    IsApparent o lookbehind .missingToken

/-- The error is about the gap. -/
structure Reports (o : Omission) (code : ErrorCode) (e : SyntaxError) : Prop where
  code : e.code = code
  severity : e.severity = .error
  token : e.token = o.next
  position : e.position = o.next.position

end Omission

theorem Callable.Form.exists_delimiter (form : Callable.Form) :
    ∃ d, Delimiter.ofConstruct? form.construct = some d ∧
      (d.opener = form.kind ∧ d.kind = .leftBrace) ∧ d.code = .missingOpenBrace := by
  cases form <;> exact ⟨_, rfl, ⟨rfl, rfl⟩, rfl⟩

namespace Parser

variable {s t : State}

/-! ## States -/

/-- Nothing has been recorded in either run, and in the second one there is room for two
    errors. -/
structure Unbroken (s t : State) : Prop where
  ready : Ready s
  errors : t.errors = []
  room : 2 ≤ t.room

theorem Unbroken.moveTo (h : Unbroken s t) {c : Cursor} (hle : s.cursor ≤ c) (c' : Cursor) :
    Unbroken (s.moveTo c) (t.moveTo c') :=
  ⟨h.ready.of_le (h.ready.clean.moveTo c) hle, h.errors, h.room⟩

end Parser

namespace Omission

open SunLint.Parser

/-- The runs in front of the keyword, or at it, and behind the gap. -/
inductive Sim (o : Omission) (code : ErrorCode) (s t : State) : Prop
  | ahead {l : List Token} (h : Unbroken s t)
    (habreast : Cursor.Abreast (l ++ o.opener :: o.header) (o.delimiter :: o.next :: o.rest)
      (o.next :: o.rest) s.cursor t.cursor)
  | past {e : SyntaxError} (hready : Ready s) (hrest : t.cursor.rest = s.cursor.rest)
    (hahead : s.cursor.ahead.length ≤ o.rest.length) (herrors : t.errors = [e])
    (he : o.Reports code e) (hroom : 0 < t.room)

/-- The runs in the header, behind the tokens `passed` and in front of `l`, or at its end. -/
structure SimHeader (o : Omission) (passed l : List Token) (s t : State) : Prop
    extends Unbroken s t where
  header : o.header = passed ++ l
  abreast : Cursor.Abreast l (o.delimiter :: o.next :: o.rest) (o.next :: o.rest) s.cursor t.cursor
  behind : ∃ b, t.cursor.behind = passed.reverse ++ o.opener :: b

end Omission

namespace Parser

variable {o : Omission} {lookbehind : Nat} {code : ErrorCode} {opening ending : Kind}
  {env env' : Env} {s t : State}

namespace Coupling

/-- The runs in front of the keyword and behind the gap. -/
def omission (o : Omission) (lookbehind : Nat) (code : ErrorCode) : Coupling where
  lines := 0
  strict := True
  Admits limits := limits.insertionLookbehind = lookbehind
  Sim := o.Sim code

/-- The runs between the keyword and the gap. -/
def header (o : Omission) (lookbehind : Nat) : Coupling where
  lines := 0
  strict := True
  Admits limits := limits.insertionLookbehind = lookbehind
  Sim s t := ∃ passed l, o.SimHeader passed l s t

/-! ## The header -/

theorem header_next {a : Token} {passed l : List Token} (h : o.SimHeader passed (a :: l) s t) :
    o.SimHeader (passed ++ [a]) l (s.moveTo s.cursor.next) (t.moveTo t.cursor.next) where
  toUnbroken := h.moveTo s.cursor.le_next _
  header := by rw [h.header, List.append_assoc]; rfl
  abreast := h.abreast.next.1
  behind := by
    obtain ⟨b, hb⟩ := h.behind
    exact ⟨b, by rw [State.cursor_moveTo, h.abreast.next.2.2, hb, List.reverse_append]; rfl⟩

theorem steady_header (h : o.Lacks lookbehind opening ending)
    (hbarrier : ending.isBarrier = true ∧ ending ≠ .newline) : (header o lookbehind).Steady where
  ready := fun _ ⟨_, _, h⟩ => h.ready
  focus := by
    rintro s t ⟨passed, l, hs⟩
    cases l with
    | nil =>
      refine .inr ⟨trivial, hs.ready.clean, ?_⟩
      rw [(Cursor.rest_eq_cons.1 hs.abreast.left).1, h.delimiter, hbarrier.1]
    | cons a l => exact .inl (by rw [hs.abreast.focus_eq.1, hs.abreast.focus_eq.2]; rfl)
  next := by
    rintro s t ⟨passed, l, hs⟩ _ hk _
    cases l with
    | nil =>
      rw [(Cursor.rest_eq_cons.1 hs.abreast.left).1, h.delimiter, hbarrier.1] at hk
      cases hk
    | cons a l => exact ⟨_, _, header_next hs⟩
  skipNewlines := by
    rintro s t ⟨passed, l, hs⟩
    have hskip := hs.moveTo (s.cursor.le_skip (· = .newline)) (t.cursor.skip (· = .newline))
    obtain hl | ⟨l₁, a, l₂, rfl, -, habreast, -, hbehind⟩ := hs.abreast.skip (· = .newline)
    · have hne : decide (o.delimiter.kind = .newline) = false := by
        rw [h.delimiter]
        exact decide_eq_false hbarrier.2
      refine .inr ⟨trivial, hskip.ready.clean, ?_⟩
      rw [State.cursor_moveTo, Cursor.skip_of_rest hs.abreast.left hl hne, h.delimiter, hbarrier.1]
    · obtain ⟨b, hb⟩ := hs.behind
      refine .inl ⟨passed ++ l₁, a :: l₂, hskip, ?_, habreast, b, ?_⟩
      · rw [hs.header, List.append_assoc]
      · rw [State.cursor_moveTo, hbehind, hb, List.reverse_append, List.append_assoc]
  record := fun _ _ => .inl trivial

end Coupling

/-- At what comes next, looking back over the header finds the keyword and no delimiter. -/
theorem lacking?_eq_some (h : o.Lacks lookbehind opening ending) (hnext : o.next.kind ≠ ending)
    {construct : Construct} {d : Delimiter} (hconstruct : Delimiter.ofConstruct? construct = some d)
    (hopener : d.opener = opening) (hending : d.kind = ending) {scene : Scene}
    (hlimit : scene.limits.insertionLookbehind = lookbehind) {c : Cursor}
    (hfocus : c.focus = o.next) {b : List Token}
    (hbehind : c.behind = o.header.reverse ++ o.opener :: b) :
    scene.lacking? c construct = some d := by
  obtain ⟨k, hk⟩ := Nat.exists_eq_add_of_le h.near
  -- What is looked at: what comes next, the header, the keyword and perhaps more.
  have hlist : c.focus :: c.behind.take scene.limits.insertionLookbehind =
      (o.next :: o.header.reverse) ++ o.opener :: b.take k := by
    have htake : lookbehind - o.header.reverse.length = k + 1 := by
      rw [List.length_reverse]
      omega
    rw [hfocus, hbehind, hlimit, List.take_append, htake, List.take_succ_cons,
      List.take_of_length_le (by rw [List.length_reverse]; omega), List.cons_append]
  have hnearest : ∃ t, (c.focus :: c.behind.take scene.limits.insertionLookbehind).find?
      (fun t => t.kind = d.opener || t.kind = d.kind) = some t ∧ t.kind = d.opener := by
    have hkeyword : (o.opener :: b.take k).find? (fun t =>
        t.kind = d.opener || t.kind = d.kind) = some o.opener :=
      List.find?_cons_of_pos (by simp [h.opener, hopener])
    rw [hlist, List.find?_append, hkeyword]
    cases hfind : (o.next :: o.header.reverse).find? fun t =>
        t.kind = d.opener || t.kind = d.kind with
    | none => exact ⟨o.opener, rfl, h.opener.trans hopener.symm⟩
    | some t =>
      refine ⟨t, rfl, ?_⟩
      have ht : t.kind = d.opener ∨ t.kind = d.kind := by simpa using List.find?_some hfind
      refine ht.resolve_right fun hkind => ?_
      obtain rfl | hmem := List.mem_cons.1 (List.mem_of_find?_eq_some hfind)
      · exact hnext (hkind.trans hending)
      · exact h.header t (List.mem_reverse.1 hmem) (hkind.trans hending)
  obtain ⟨t, ht, hkind⟩ := hnearest
  rw [Scene.lacking?, hconstruct]
  simp only [Option.bind_eq_bind, Option.bind_some, ht, hkind, if_true]

namespace Coupling

/-! ## The gap -/

theorem next_of_gap {passed : List Token} (hs : o.SimHeader passed [] s t) :
    s.cursor.next = ⟨o.delimiter :: s.cursor.behind, o.next, o.rest⟩ :=
  Cursor.next_of_rest hs.abreast.left

/-- Behind the gap both runs go on at the same place. -/
theorem past_of_gap {passed : List Token} (hs : o.SimHeader passed [] s t) (e : SyntaxError)
    (he : o.Reports code e) : o.Sim code (s.moveTo s.cursor.next) (t.record e) := by
  have hroom := hs.room
  obtain ⟨hrecord, hroom'⟩ := State.record_eq (s := t) (by omega) e
  refine .past (hs.ready.of_le (hs.ready.clean.moveTo _) s.cursor.le_next) ?_ ?_
    (by rw [hrecord, hs.errors]) he (by omega)
  · rw [State.cursor_record, State.cursor_moveTo, next_of_gap hs]
    exact hs.abreast.right
  · exact Nat.le_of_eq (by rw [State.cursor_moveTo, next_of_gap hs])

/-- The first run passes the delimiter. The second one records that it is missing, unless
    another delimiter comes next: then both of them are behind it, and the first one is at
    that other delimiter. -/
theorem header_gap (h : o.Lacks lookbehind opening ending)
    (hbarrier : ending.isBarrier = true ∧ ending ≠ .newline)
    {construct : Construct} {d : Delimiter} (hconstruct : Delimiter.ofConstruct? construct = some d)
    (hd : d.opener = opening ∧ d.kind = ending) {C : Coupling} (hstrict : C.strict)
    (hlines : C.lines = 0)
    (hadmits : ∀ {limits}, C.Admits limits → limits.insertionLookbehind = lookbehind)
    (hpast : ∀ {s t}, o.Sim d.code s t → C.Sim s t)
    (hagain : o.next.kind = ending → ∀ {s t}, s.IsClean → s.cursor.focus.kind = ending →
      C.Sim s t) : C.Header (header o lookbehind) construct ending where
  steady := steady_header h hbarrier
  part := ⟨hlines.symm, fun _ => hstrict, hadmits, fun _ => .inl hstrict⟩
  delimiter := by
    rintro env env' s t hagrees hhead ⟨passed, l, hs⟩
    have hclean := hs.ready.clean
    by_cases hfocus : s.cursor.focus.kind = ending
    · cases l with
      | cons a l =>
        rw [hs.abreast.focus_eq.1] at hfocus
        exact absurd hfocus (h.header a (by simp [hs.header]))
      | nil =>
        have hfocus' : t.cursor.focus = o.next := (Cursor.rest_eq_cons.1 hs.abreast.right).1
        rw [← bind_pure (delimiter ending), delimiter_bind, delimiter_bind, if_pos hfocus]
        split
        · -- What comes next is passed in the second run in place of the delimiter.
          rename_i hkind
          refine .done rfl (hagain (hfocus' ▸ hkind) (hclean.moveTo _) ?_)
          rw [State.cursor_moveTo, next_of_gap hs, ← hkind, hfocus']
        · -- The keyword is found behind the cursor, so the second run reports the gap.
          rename_i hne
          obtain ⟨b, hb⟩ := hs.behind
          have hlacking : env'.scene.lacking? t.cursor construct = some d :=
            lacking?_eq_some h (hfocus' ▸ hne) hconstruct hd.1 hd.2
              (hagrees.limits ▸ hadmits hagrees.admits) hfocus' (b := b)
              (by rw [hb, hs.header, List.append_nil])
          have hconstruct' : (env'.contextAt t.cursor).construct = construct := by
            rw [← hagrees.constructs, List.head?_eq_some_iff] at hhead
            obtain ⟨_, hhead⟩ := hhead
            simp [Env.contextAt, Scene.context, Context.around, hhead]
          rw [Scene.missingDelimiter?, hconstruct', hlacking, Option.map_some]
          have hreports : o.Reports d.code (env'.scene.recordCoded d.code .error d.message
              t.cursor.focus [d.kind] (env'.contextAt t.cursor)) :=
            ⟨rfl, rfl, hfocus', congrArg Token.position hfocus'⟩
          exact .done rfl (hpast (past_of_gap hs _ hreports))
    · exact .spoiled hstrict (delimiter_of_kind_ne hclean hfocus)

/-! ## The whole list -/

theorem focus_eq_of_sim (h : o.Sim code s t) : t.cursor.focus = s.cursor.focus := by
  cases h with
  | @ahead l _ habreast =>
    cases l <;> exact habreast.focus_eq.2.trans habreast.focus_eq.1.symm
  | past _ hrest => exact (Cursor.rest_eq_cons.1 hrest).1

theorem ready_of_sim (h : o.Sim code s t) : Ready s := by
  cases h with
  | ahead h => exact h.ready
  | past h => exact h

/-- From the keyword both runs come into the header. From any other token they stay in front
    of it, or behind the gap. -/
theorem next_of_sim (h : o.Sim code s t) (heof : s.cursor.focus.kind ≠ .eof) :
    o.Sim code (s.moveTo s.cursor.next) (t.moveTo t.cursor.next) ∨
      s.cursor.focus = o.opener ∧
        o.SimHeader [] o.header (s.moveTo s.cursor.next) (t.moveTo t.cursor.next) := by
  cases h with
  | @ahead l hs habreast =>
    have hs' := hs.moveTo s.cursor.le_next t.cursor.next
    cases l with
    | nil =>
      exact .inr ⟨habreast.focus_eq.1, hs', rfl, habreast.next.1, t.cursor.behind,
        habreast.next.2.2⟩
    | cons a l => exact .inl (.ahead hs' habreast.next.1)
  | past hready hrest hahead herrors he hroom =>
    have hne := hready.terminated.ahead_ne_nil heof
    obtain ⟨hfocus, hahead'⟩ := Cursor.rest_eq_cons.1 hrest
    refine .inl (.past (hready.of_le (hready.clean.moveTo _) s.cursor.le_next) ?_ ?_ herrors he
      hroom)
    · change t.cursor.next.rest = s.cursor.next.rest
      rw [Cursor.rest, Cursor.rest, Cursor.focus_next hne, Cursor.focus_next (hahead' ▸ hne),
        hahead']
    · exact Nat.le_trans (Cursor.length_ahead_le s.cursor.le_next) hahead

/-- Both runs stop at the keyword, if they come to it. -/
theorem skip_of_sim (hopener : o.opener.kind.isBlockOpener = true) (h : o.Sim code s t)
    {p : Kind → Bool} (hp : ∀ kind, p kind = true → kind.isBlockOpener = false) :
    o.Sim code (s.moveTo (s.cursor.skip p)) (t.moveTo (t.cursor.skip p)) := by
  have hp : p o.opener.kind = false := by
    by_contra h
    rw [hp _ (Bool.not_eq_false _ ▸ h)] at hopener
    cases hopener
  cases h with
  | @ahead l hs habreast =>
    have hs' := hs.moveTo (s.cursor.le_skip p) (t.cursor.skip p)
    have habreast := Cursor.Abreast.append_iff.1 habreast
    obtain hl | ⟨l₁, a, l₂, rfl, -, habreast', -⟩ := habreast.skip p
    · refine .ahead (l := []) hs' ⟨?_, ?_⟩
      · rw [State.cursor_moveTo, Cursor.skip_of_rest habreast.left hl hp]
        rfl
      · rw [State.cursor_moveTo, Cursor.skip_of_rest habreast.right hl hp]
        rfl
    · exact .ahead (l := a :: l₂) hs' (Cursor.Abreast.append_iff.2 habreast')
  | past hready hrest hahead herrors he hroom =>
    have hle := s.cursor.le_skip p
    exact .past (hready.of_le (hready.clean.moveTo _) hle) (Cursor.rest_skip_congr hrest p)
      (Nat.le_trans (Cursor.length_ahead_le hle) hahead) herrors he hroom

theorem isBlockOpener_of_isApparent (h : o.IsApparent lookbehind code) :
    o.opener.kind.isBlockOpener = true := by
  cases h with
  | @brace form h =>
    rw [h.opener]
    cases form <;> rfl
  | result h =>
    rw [h.opener]
    rfl

theorem pass_of_sim (hopener : o.opener.kind.isBlockOpener = true) (h : o.Sim code s t)
    (heof : s.cursor.focus.kind ≠ .eof) (hk : s.cursor.focus.kind.isBlockOpener = false) :
    o.Sim code (s.moveTo s.cursor.next) (t.moveTo t.cursor.next) := by
  refine (next_of_sim h heof).resolve_right fun hheader => ?_
  rw [hheader.1, hopener] at hk
  cases hk

/-- In front of the keyword the first run has one more token ahead, and behind the gap as many
    as the second one. -/
theorem length_ahead_of_sim (h : o.Sim code s t) :
    o.rest.length < t.cursor.ahead.length ∧
        s.cursor.ahead.length = t.cursor.ahead.length + 1 ∨
      s.cursor.ahead.length ≤ o.rest.length ∧
        s.cursor.ahead.length = t.cursor.ahead.length := by
  cases h with
  | ahead _ habreast =>
    have hleft := congrArg List.length habreast.left
    have hright := congrArg List.length habreast.right
    simp only [Cursor.rest, List.length_cons, List.length_append] at hleft hright
    omega
  | past _ hrest hahead =>
    exact .inr ⟨hahead, by rw [(Cursor.rest_eq_cons.1 hrest).2]⟩

theorem steady_omission (hopener : o.opener.kind.isBlockOpener = true) :
    (omission o lookbehind code).Steady where
  ready := fun _ h => ready_of_sim h
  focus := fun h => .inl (by rw [focus_eq_of_sim h]; rfl)
  next := fun h _ hk hopener' => pass_of_sim hopener h (fun heof => by rw [heof] at hk; cases hk)
    (hopener' trivial)
  skipNewlines := fun h => .inl (skip_of_sim hopener h fun _ hk => by
    rw [of_decide_eq_true hk]
    rfl)
  record := fun _ _ => .inl trivial

/-- Where another construct begins, its header is read alike in both runs. -/
theorem header_omission (hopener : o.opener.kind.isBlockOpener = true) (construct : Construct)
    {kind : Kind} (hk : kind ≠ .eof ∧ kind.isBlockOpener = false) :
    (omission o lookbehind code).Header (omission o lookbehind code) construct kind :=
  (steady_omission hopener).header construct
    (fun h _ hkind => pass_of_sim hopener h (hkind ▸ hk.1) (hkind ▸ hk.2))
    (fun h => .inl (by rw [Aligned, focus_eq_of_sim h]; rfl)) fun _ _ => .inl trivial

/-- A keyword is not taken for any other one. -/
theorem kind_eq_of_counts {kind : Kind} (hopener : o.opener.kind.isBlockOpener = true)
    (hfocus : s.cursor.focus = o.opener) (hcounts : Counts kind s.cursor) :
    o.opener.kind = kind := by
  obtain h | ⟨h, _⟩ := hcounts
  · rw [← hfocus, h]
  · rw [← hfocus, h] at hopener
    cases hopener

/-- Without a list of parameters in the first run, none is read in the second one. -/
theorem kind_ne_leftParen (h : o.Lacks lookbehind opening .leftBrace)
    (hparen : o.next.kind = .leftParen → ∃ t ∈ o.header, t.kind = .leftParen)
    (hs : o.SimHeader [] o.header (s.moveTo s.cursor.next) (t.moveTo t.cursor.next))
    (htext : s.cursor.next.focus.kind = .text)
    (hstuck : s.cursor.next.next.focus.kind.isBarrier = true) :
    t.cursor.next.next.focus.kind ≠ .leftParen := by
  intro hkind
  cases hheader : o.header with
  | nil =>
    -- The delimiter comes right behind the keyword, where the first run has read a name.
    rw [hheader] at hs
    rw [show s.cursor.next.focus = o.delimiter from (Cursor.rest_eq_cons.1 hs.abreast.left).1,
      h.delimiter] at htext
    cases htext
  | cons a l =>
    rw [hheader] at hs hparen
    have hname : s.cursor.next.focus = a := hs.abreast.focus_eq.1
    have habreast := hs.abreast.next.1
    change Cursor.Abreast l _ _ s.cursor.next.next t.cursor.next.next at habreast
    cases l with
    | nil =>
      -- The name is all there is in the header.
      rw [(Cursor.rest_eq_cons.1 habreast.right).1] at hkind
      obtain ⟨x, hx, hxkind⟩ := hparen hkind
      rw [List.mem_singleton.1 hx, ← hname, htext] at hxkind
      cases hxkind
    | cons b l =>
      rw [habreast.focus_eq.1] at hstuck
      rw [habreast.focus_eq.2] at hkind
      rw [hkind] at hstuck
      cases hstuck

/-- At a function or component both runs come to its name. -/
theorem callable_omission (h : o.IsApparent lookbehind code) (hsim : o.Sim code s t)
    (form : Callable.Form) (hcounts : Counts form.kind s.cursor) :
    ∃ H : Coupling, (omission o lookbehind code).Header H form.construct .leftBrace ∧
      H.Sim (s.moveTo s.cursor.next) (t.moveTo t.cursor.next) ∧
      (s.cursor.next.focus.kind = .text → H.Stuck (s.moveTo s.cursor.next.next) →
        t.cursor.next.next.focus.kind ≠ .leftParen) := by
  have hopener := isBlockOpener_of_isApparent h
  obtain hnext | ⟨hfocus, hs⟩ := next_of_sim hsim (hcounts.ne_eof (by cases form <;> exact nofun))
  · refine ⟨omission o lookbehind code, header_omission hopener _ ⟨nofun, rfl⟩, hnext,
      fun htext hstuck => ?_⟩
    have hnext' := pass_of_sim hopener hnext (by rw [State.cursor_moveTo, htext]; exact nofun)
      (by rw [State.cursor_moveTo, htext]; rfl)
    have hfocus : t.cursor.next.next.focus = s.cursor.next.next.focus := focus_eq_of_sim hnext'
    rw [hfocus]
    exact hstuck.kind_ne _ rfl
  · have hkind := kind_eq_of_counts hopener hfocus hcounts
    cases h with
    | result h =>
      rw [h.opener] at hkind
      cases form <;> exact absurd hkind (by decide)
    | @brace form' h hbrace hparen =>
      obtain rfl : form' = form := by
        rw [h.opener] at hkind
        revert hkind
        cases form' <;> cases form <;> decide
      obtain ⟨d, hd, hdelimiter, hcode⟩ := Callable.Form.exists_delimiter form'
      refine ⟨header o lookbehind, ?_, ⟨_, _, hs⟩, fun htext hstuck =>
        kind_ne_leftParen h hparen hs htext hstuck.isBarrier⟩
      exact header_gap h ⟨rfl, by decide⟩ hd hdelimiter trivial rfl id (hcode ▸ id)
        fun hagain => absurd hagain hbrace

theorem conditional_omission (h : o.IsApparent lookbehind code) (hsim : o.Sim code s t)
    (hcounts : Counts .whenKw s.cursor) :
    ∃ H : Coupling, (omission o lookbehind code).orThen.Header H .when .thenKw ∧ H.Stops ∧
      H.Sim (s.moveTo s.cursor.next) (t.moveTo t.cursor.next) := by
  have hopener := isBlockOpener_of_isApparent h
  obtain hnext | ⟨hfocus, hs⟩ := next_of_sim hsim (hcounts.ne_eof nofun)
  · have hheader : (omission o lookbehind code).Header (omission o lookbehind code) .when .thenKw :=
      header_omission hopener .when ⟨nofun, rfl⟩
    refine ⟨_, hheader.orThen, fun h hstuck => ?_, hnext⟩
    rw [focus_eq_of_sim h]
    exact Token.not_continues hstuck.isBarrier
  · have hkind := kind_eq_of_counts hopener hfocus hcounts
    cases h with
    | @brace form h =>
      rw [h.opener] at hkind
      cases form <;> exact absurd hkind (by decide)
    | result h hcontinues =>
      refine ⟨header o lookbehind, ?_, ?_, _, _, hs⟩
      · exact header_gap h ⟨rfl, by decide⟩ (d := ⟨.whenKw, .thenKw, .missingToken, _⟩) rfl
          ⟨rfl, rfl⟩ trivial rfl id .inl fun _ _ _ hclean hthen => .inr ⟨trivial, hclean, hthen⟩
      · rintro s t ⟨passed, l, hs⟩ hstuck
        cases l with
        | nil => rwa [(Cursor.rest_eq_cons.1 hs.abreast.right).1]
        | cons a l =>
          rw [hs.abreast.focus_eq.2, ← hs.abreast.focus_eq.1]
          exact Token.not_continues hstuck.isBarrier

theorem complete_omission (h : o.IsApparent lookbehind code) :
    (omission o lookbehind code).Complete := by
  have hopener := isBlockOpener_of_isApparent h
  have haligned {s t : State} (h : o.Sim code s t) : (omission o lookbehind code).Aligned s t := by
    rw [Aligned, focus_eq_of_sim h]
    rfl
  exact
    { steady_omission hopener with
      pass := fun h _ heof hk => pass_of_sim hopener h heof (hk trivial)
      edge := fun h => .inl (haligned h)
      skipSeparators := fun h => .inl (skip_of_sim hopener h fun _ =>
        Kind.isBlockOpener_of_isSeparator)
      room := fun {s t} h => by
        have hs := (ready_of_sim h).clean.room
        cases h with
        | ahead h =>
          have := h.room
          omega
        | past => omega
      isJuxtaposed := fun {s t} h haligned htext => by
        cases h with
        | @ahead l _ habreast =>
          cases l with
          | nil =>
            rw [habreast.focus_eq.1] at htext
            rw [htext] at hopener
            cases hopener
          | cons a l =>
            obtain ⟨hfocus, hahead⟩ := Cursor.rest_eq_cons.1 habreast.left
            obtain ⟨hfocus', hahead'⟩ := Cursor.rest_eq_cons.1 habreast.right
            rw [isJuxtaposed, isJuxtaposed, hfocus, hahead, hfocus', hahead']
            cases l <;> rfl
        | past _ hrest =>
          rw [isJuxtaposed, isJuxtaposed, (Cursor.rest_eq_cons.1 hrest).1,
            (Cursor.rest_eq_cons.1 hrest).2]
      lastErrorPosition := fun _ => .inl trivial
      index := fun {s t s' t'} h h' hle hle' => by
        have hs := length_ahead_of_sim h
        have hs' := length_ahead_of_sim h'
        have := Cursor.length_ahead_le hle
        have := s.cursor.index_add_length_ahead
        have := t.cursor.index_add_length_ahead
        have := s'.cursor.index_add_length_ahead
        have := t'.cursor.index_add_length_ahead
        have := congrArg List.length hle.1
        have := congrArg List.length hle'.1
        omega
      recovered := fun _ _ _ _ => .inl trivial
      callable := fun form hsim _ hcounts => callable_omission h hsim form hcounts
      conditional := fun hsim _ hcounts => conditional_omission h hsim hcounts }

end Coupling

/-- If the list with the delimiter is parsed without an error then the list without it is parsed
    to the same items, with one error at the token that comes where the delimiter should be. -/
theorem parse_of_omission {o : Omission} {code : ErrorCode} {dictionary : Dictionary}
    {settings : Settings} {found : List Item} (source source' : Option String)
    (hlast : o.whole.getLast?.map (·.kind) = some .eof)
    (hsingle : ∀ t ∈ o.whole.dropLast, t.kind ≠ .eof) (hcap : 2 ≤ settings.maxErrors)
    (hclean : parse o.whole source dictionary settings = .ok ⟨found, []⟩)
    (happarent : o.IsApparent settings.limits.insertionLookbehind code) :
    ∃ e, parse o.lacking source' dictionary settings = .ok ⟨found, [e]⟩ ∧ o.Reports code e := by
  obtain ⟨c, found', s, hc, hready, hdone, hparse, hclean'⟩ :=
    exists_run source dictionary hlast (by omega : 0 < settings.maxErrors)
  rw [hclean] at hparse
  obtain ⟨rfl, herrors⟩ : found = found' ∧ [] = s.errors.reverse := by simpa using hparse
  have hs := hclean' herrors.symm
  have hlast' : o.lacking.getLast?.map (·.kind) = some .eof := by
    simpa [Omission.whole, Omission.lacking, List.getLast?_append, List.getLast?_cons] using hlast
  obtain ⟨c', found', t, hc', -, hdone', hparse'⟩ :=
    isParsed_of_getLast? source' dictionary settings hlast'
  have hdepth : depthFor o.lacking.length ≤ depthFor o.whole.length := by
    simp only [depthFor, Omission.whole, Omission.lacking, List.length_append, List.length_cons]
    omega
  have hsim : o.Sim code (.start c settings) (.start c' settings) := by
    refine .ahead (l := o.before) ⟨hready, rfl, hcap⟩ ⟨?_, ?_⟩
    · exact (Cursor.rest_of_ofList? hc).1.trans (by simp [Omission.whole])
    · exact (Cursor.rest_of_ofList? hc').1.trans (by simp [Omission.lacking])
  have hagrees : (Coupling.omission o settings.limits.insertionLookbehind code).Agrees
      (.start source dictionary settings) (.start source' dictionary settings) :=
    ⟨⟨rfl, rfl, rfl⟩, rfl⟩
  have hopener := Coupling.isBlockOpener_of_isApparent happarent
  have hcoupled := Coupling.keeps_items (Coupling.complete_omission happarent)
    (fun h => by rw [Coupling.Aligned, Coupling.focus_eq_of_sim h]; rfl)
    (fun h => Coupling.skip_of_sim hopener h fun _ =>
      Kind.isBlockOpener_of_isSeparator)
    (depthFor o.whole.length) hagrees hsim
  rw [hdone, hdone' _ hdepth] at hcoupled
  cases hcoupled with
  | spoiled _ h => exact (h _ _ rfl hs).elim
  | done hfound hsim' =>
    have hfound : found = found' := by simpa [Coupling.omission] using hfound
    cases hsim' with
    | past _ _ _ herrors' he =>
      exact ⟨_, by rw [hparse', hfound, herrors']; rfl, he⟩
    | ahead _ habreast =>
      -- At the end of the input no keyword is ahead.
      obtain ⟨hle, heof, -⟩ := items_read _ hready _ _ hdone hs
      have hlist : s.cursor.tokens = o.whole := hle.1.symm.trans (Cursor.tokens_ofList? hc)
      have hahead := Cursor.ahead_eq_nil (hlist ▸ hsingle) heof
      have hlength := congrArg List.length habreast.left
      simp [Cursor.rest, hahead] at hlength
      omega

/-- Of a function with a condition in it the brace is left out, and then, instead, the
    `then`. -/
theorem parse_of_omission_of_function : ∃ (o o' : Omission) (found : List Item)
    (e e' : SyntaxError),
    o.whole = (tokenize "function f(a) \x7b\n  when a then b\n\x7d").tokens ∧ o'.whole = o.whole ∧
    parse o.whole none { keywords := [] } {} = .ok ⟨found, []⟩ ∧ found.length = 1 ∧
    parse o.lacking none { keywords := [] } {} = .ok ⟨found, [e]⟩ ∧
    o.Reports .missingOpenBrace e ∧ e.position = ⟨1, 16⟩ ∧
    parse o'.lacking none { keywords := [] } {} = .ok ⟨found, [e']⟩ ∧
    o'.Reports .missingToken e' ∧ e'.position = ⟨2, 15⟩ := by
  let tokens := (tokenize "function f(a) \x7b\n  when a then b\n\x7d").tokens
  let token (i : Nat) : Token := tokens.getD i (.eof .start)
  let o : Omission := ⟨[], token 0, tokens.extract 1 5, token 5, token 6, tokens.drop 7⟩
  let o' : Omission := ⟨tokens.take 7, token 7, [token 8], token 9, token 10, tokens.drop 11⟩
  have hwhole : o.whole = tokens ∧ o'.whole = tokens := by decide +kernel
  have hlast : tokens.getLast?.map (·.kind) = some .eof := by decide +kernel
  have hsingle : ∀ t ∈ tokens.dropLast, t.kind ≠ .eof := by decide +kernel
  have hparses : (parse tokens none { keywords := [] } {}).toOption.map
      (fun p => (p.items.length, p.errors)) = some (1, []) := by decide +kernel
  have happarent : o.IsApparent ({} : Settings).limits.insertionLookbehind .missingOpenBrace := by
    have hlacks : o.Lacks ({} : Settings).limits.insertionLookbehind Callable.Form.function.kind
        .leftBrace := by
      constructor <;> decide +kernel
    refine .brace hlacks ?_ ?_ <;> decide +kernel
  have happarent' : o'.IsApparent ({} : Settings).limits.insertionLookbehind .missingToken := by
    have hnext : o'.next.kind = .text := by decide +kernel
    refine .result ⟨?_, ?_, ?_, ?_⟩ ?_
    iterate 4 decide +kernel
    simp [Token.Continues, operatorLevel?, hnext]
  cases hclean : parse tokens none { keywords := [] } {} with
  | error fault =>
    rw [hclean] at hparses
    cases hparses
  | ok output =>
    obtain ⟨found, errors⟩ := output
    rw [hclean] at hparses
    obtain ⟨hlength, rfl⟩ : found.length = 1 ∧ errors = [] := by
      simpa [Except.toOption] using hparses
    obtain ⟨e, he, hreports⟩ := parse_of_omission (o := o) none none (hwhole.1 ▸ hlast)
      (hwhole.1 ▸ hsingle) (by decide) (hwhole.1 ▸ hclean) happarent
    obtain ⟨e', he', hreports'⟩ := parse_of_omission (o := o') none none (hwhole.2 ▸ hlast)
      (hwhole.2 ▸ hsingle) (by decide) (hwhole.2 ▸ hclean) happarent'
    refine ⟨o, o', found, e, e', hwhole.1, hwhole.2.trans hwhole.1.symm, hwhole.1 ▸ hclean, hlength,
      he, hreports, ?_, he', hreports', ?_⟩
    · rw [hreports.position]
      decide +kernel
    · rw [hreports'.position]
      decide +kernel

end Parser

end SunLint
