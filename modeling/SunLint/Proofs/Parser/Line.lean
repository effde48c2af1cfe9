import SunLint.Proofs.Parser.Cap
import SunLint.Proofs.Parser.Severity
import SunLint.Proofs.Parser.Continuation

/-!
# Lines that cannot be read

A line of names, literals, equals signs and the keywords of bindings, results and imports leaves
nothing open, however little sense it makes. A parser that is called in such a line comes to
its end, or fails at one of its tokens (`Line.Holds`, `Outcome.Stays`), and a recovery that
starts there does not go beyond the line end. So the next line is read from its first token on.

A recovery that starts at the line end itself skips all of the next line. That happens where the
line breaks off before a name or an equals sign (`Line.BreaksOff`).

* `parse_behind_line`: what is behind a line that does not break off is read as it is on its
  own, and its errors are reported;
* `next_line_hidden`: behind a line that breaks off this does not hold.
-/

namespace SunLint

open Recovery

/-- Names, literals, equals signs and the keywords of bindings, results and imports. -/
def Kind.isPlain : Kind → Bool
  | .text | .string | .number | .trueKw | .falseKw | .equals => true
  | .letKw | .stateKw | .returnKw | .renderKw | .importKw => true
  | _ => false

theorem Kind.endsStatement_of_isPlain {k : Kind} (h : k.isPlain = true) :
    k.endsStatement = false := by
  cases k <;> first | rfl | cases h

theorem Kind.isBlockOpener_of_isPlain {k : Kind} (h : k.isPlain = true) :
    k.isBlockOpener = false := by
  cases k <;> first | rfl | cases h

namespace Parser

variable {α β : Type} {env : Env} {s : State} {n : Nat}

/-! ## Lines -/

/-- A line in a list of tokens, with the line end and what comes behind it. -/
structure Line where
  tokens : List Token
  stop : Token
  more : List Token

namespace Line

/-- The line has nothing in it that could be open at its end. -/
structure IsPlain (line : Line) (scene : Scene) : Prop where
  stop : line.stop.kind = .newline
  plain : ∀ a ∈ line.tokens, a.kind.isPlain = true
  sameLine : ∀ a ∈ line.tokens, a.position.line = line.stop.position.line
  uncorrected : ∀ a ∈ line.tokens, scene.replacement? a = none

/-- What may stand at the end of a line that asks for a name, or for an equals sign. -/
def stubs : List (List Kind) :=
  [[.importKw], [.letKw], [.stateKw], [.letKw, .text], [.stateKw, .text]]

/-- The line ends where a name or an equals sign is asked for. -/
def BreaksOff (tokens : List Token) : Prop := ∃ stub ∈ stubs, stub <:+ tokens.map (·.kind)

instance (tokens : List Token) : Decidable (BreaksOff tokens) :=
  inferInstanceAs (Decidable (∃ stub ∈ stubs, stub <:+ tokens.map (·.kind)))

/-- The run is in the line, with the tokens `l` left, and what has been wrong was in it. -/
structure Holds (line : Line) (l : List Token) (s : State) : Prop where
  rest : s.cursor.rest = l ++ line.stop :: line.more
  behind : s.cursor.behind.reverse ++ l = line.tokens
  errors : ∀ e ∈ s.errors, e.position.line = line.stop.position.line

variable {line : Line} {l : List Token} {a : Token}

theorem holds_start {c : Cursor} {settings : Settings}
    (hc : Cursor.ofList? (line.tokens ++ line.stop :: line.more) = some c) :
    line.Holds line.tokens (.start c settings) where
  rest := (Cursor.rest_of_ofList? hc).1
  behind := by
    rw [show (State.start c settings).cursor.behind = [] from (Cursor.rest_of_ofList? hc).2]
    rfl
  errors e he := by cases he

namespace Holds

theorem focus_nil (h : line.Holds [] s) : s.cursor.focus = line.stop :=
  (Cursor.rest_eq_cons.1 h.rest).1

theorem focus_cons (h : line.Holds (a :: l) s) : s.cursor.focus = a :=
  (Cursor.rest_eq_cons.1 h.rest).1

theorem mem (h : line.Holds (a :: l) s) : a ∈ line.tokens := by
  rw [← h.behind]
  exact List.mem_append_right _ List.mem_cons_self

theorem next (h : line.Holds (a :: l) s) : line.Holds l (s.moveTo s.cursor.next) := by
  have hbehind := h.behind
  cases hmore : l ++ line.stop :: line.more with
  | nil => simp at hmore
  | cons b r =>
    have hnext : s.cursor.next = ⟨a :: s.cursor.behind, b, r⟩ :=
      Cursor.next_of_rest (h.rest.trans (by rw [List.cons_append, hmore]))
    refine ⟨?_, ?_, h.errors⟩
    · rw [State.cursor_moveTo, hnext, hmore]
      rfl
    · rw [State.cursor_moveTo, hnext, ← hbehind, List.reverse_cons, List.append_assoc]
      rfl

theorem seek (h : line.Holds l s) {k : Nat} (hk : k ≤ l.length) :
    line.Holds (l.drop k) (s.moveTo (s.cursor.seek k)) := by
  induction k generalizing l s with
  | zero => exact h
  | succ k ih =>
    cases l with
    | nil => simp at hk
    | cons a l => exact ih h.next (Nat.le_of_succ_le_succ hk)

theorem record (h : line.Holds l s) {e : SyntaxError}
    (he : e.position.line = line.stop.position.line) : line.Holds l (s.record e) := by
  refine ⟨by rw [State.cursor_record]; exact h.rest, by rw [State.cursor_record]; exact h.behind,
    fun x hx => ?_⟩
  rw [State.record] at hx
  split at hx
  · exact h.errors x hx
  · obtain rfl | hx := List.mem_cons.1 hx
    · exact he
    · exact h.errors x hx

variable {scene : Scene}

/-- Where the line ends, an error about the token under the cursor is about the line as well. -/
theorem line_focus (hline : line.IsPlain scene) (h : line.Holds l s) :
    s.cursor.focus.position.line = line.stop.position.line := by
  cases l with
  | nil => rw [h.focus_nil]
  | cons a l => rw [h.focus_cons, hline.sameLine a h.mem]

/-- What is neither plain nor the line end does not come up in the line. -/
theorem focus_ne (hline : line.IsPlain scene) (h : line.Holds l s) {k : Kind}
    (hk : k.isPlain = false ∧ k ≠ .newline) : s.cursor.focus.kind ≠ k := by
  rintro rfl
  cases l with
  | nil => exact hk.2 (by rw [h.focus_nil, hline.stop])
  | cons a l =>
    rw [h.focus_cons, hline.plain a h.mem] at hk
    cases hk.1

theorem breaksOff {stub : List Token} (h : line.Holds stub s)
    (hstub : stub.map (·.kind) ∈ stubs) : BreaksOff line.tokens :=
  ⟨_, hstub, s.cursor.behind.reverse.map (·.kind), by rw [← List.map_append, h.behind]⟩

end Holds

end Line

/-! ## Parsers within a line -/

/-- The run comes to its end in the line, with tokens left that satisfy `Q`, or it fails at one
    of the tokens. -/
def Outcome.Stays (line : Line) (Q : List Token → Prop) : Outcome α → Prop
  | .done _ s => ∃ l, Q l ∧ line.Holds l s
  | .failed _ s => ∃ a l, line.Holds (a :: l) s
  | .exhausted => True

namespace Outcome.Stays

variable {line : Line} {Q R : List Token → Prop}

theorem bind {p : Parser α} {f : α → Parser β} (hp : (p env s).Stays line Q)
    (hf : ∀ a l s', Q l → line.Holds l s' → (f a env s').Stays line R) :
    ((p >>= f) env s).Stays line R := by
  rw [bind_apply]
  cases h : p env s with
  | done a s' =>
    rw [h] at hp
    obtain ⟨l, hl, hs'⟩ := hp
    exact hf a l s' hl hs'
  | failed e s' =>
    rw [h] at hp
    exact hp
  | exhausted => trivial

theorem mono {o : Outcome α} (h : o.Stays line Q) (hQ : ∀ l, Q l → R l) : o.Stays line R := by
  cases o with
  | done a s =>
    obtain ⟨l, hl, hs⟩ := h
    exact ⟨l, hQ l hl, hs⟩
  | failed e s => exact h
  | exhausted => trivial

end Outcome.Stays

namespace Line

variable {line : Line} {l : List Token} {a : Token}

theorem stays_primary (hline : line.IsPlain env.scene) (h : line.Holds l s) :
    (primary n env s).Stays line (· = l.tail) := by
  cases n with
  | zero => trivial
  | succ n =>
    rw [primary, current_bind]
    cases l with
    | nil =>
      rw [h.focus_nil, hline.stop]
      exact ⟨[], rfl, h.record (by rw [← h.line_focus hline]; rfl)⟩
    | cons a l =>
      have hplain := hline.plain a h.mem
      rw [h.focus_cons]
      cases hkind : a.kind with
      | text | string | number | trueKw | falseKw => exact ⟨l, rfl, h.next⟩
      | equals | letKw | stateKw | returnKw | renderKw | importKw => exact ⟨a, l, h⟩
      | _ =>
        rw [hkind] at hplain
        cases hplain

/-- Nothing in a line goes on with an expression. -/
theorem stays_suffixes (hline : line.IsPlain env.scene) (h : line.Holds l s) (e : Expr) :
    (suffixes n e env s).Stays line (· = l) := by
  cases n with
  | zero => trivial
  | succ n =>
    rw [suffixes, currentKind_bind]
    have hparen : s.cursor.focus.kind ≠ .leftParen := h.focus_ne hline ⟨rfl, by decide⟩
    have hdot : s.cursor.focus.kind ≠ .dot := h.focus_ne hline ⟨rfl, by decide⟩
    generalize s.cursor.focus.kind = kind at hparen hdot
    split
    · exact absurd rfl hparen
    · exact absurd rfl hdot
    · exact ⟨l, rfl, h⟩

theorem stays_operations (hline : line.IsPlain env.scene) (h : line.Holds l s) (least : Nat)
    (e : Expr) : (operations n least e env s).Stays line (· = l) := by
  cases n with
  | zero => trivial
  | succ n =>
    have hsymbol : s.cursor.focus.kind ≠ .symbol := h.focus_ne hline ⟨rfl, nofun⟩
    rw [operations, current_bind, operatorLevel?, if_neg hsymbol]
    exact ⟨l, rfl, h⟩

theorem stays_unary (hline : line.IsPlain env.scene) (h : line.Holds l s) :
    (unary n env s).Stays line (· = l.tail) := by
  cases n with
  | zero => trivial
  | succ n =>
    have hsymbol : s.cursor.focus.kind ≠ .symbol := h.focus_ne hline ⟨rfl, nofun⟩
    rw [unary, current_bind, if_neg (by simp [hsymbol])]
    refine (stays_primary hline h).bind fun e l' s' hl' h' => ?_
    exact (stays_suffixes hline h' e).mono fun _ hl => hl.trans hl'

/-- An expression is one token, or there is none at the end of the line. -/
theorem stays_expression (hline : line.IsPlain env.scene) (h : line.Holds l s) :
    (expression n env s).Stays line (· = l.tail) := by
  cases n with
  | zero => trivial
  | succ n =>
    let inner : Env := { env with constructs := .expression :: env.constructs }
    have hinner : line.IsPlain inner.scene := hline
    have hunary : (unary n inner s).Stays line (· = l.tail) := stays_unary hinner h
    refine hunary.bind fun e l' s' hl' h' => ?_
    exact (stays_operations hinner h' 0 e).mono fun _ hl => hl.trans hl'

theorem stays_value {γ : Type} (hline : line.IsPlain env.scene) (h : line.Holds l s)
    (f : Expr → γ) : ((do return f (← expression n)) env s : Outcome γ).Stays line fun _ => True :=
  (stays_expression hline h).bind fun _ l' _ _ h' => ⟨l', trivial, h'⟩

/-- A statement ends at the line end only. -/
theorem stays_endStatement (hline : line.IsPlain env.scene) (h : line.Holds l s) (b : β) :
    ((do endStatement; return b) env s : Outcome β).Stays line (· = []) := by
  rw [endStatement_bind]
  cases l with
  | nil =>
    rw [h.focus_nil, hline.stop]
    exact ⟨[], rfl, h⟩
  | cons a l =>
    rw [h.focus_cons, Kind.endsStatement_of_isPlain (hline.plain a h.mem), if_neg nofun]
    exact ⟨a, l, h⟩

/-- A name and an equals sign are asked for, and then a value. -/
theorem stays_binding {γ : Type} (hline : line.IsPlain env.scene)
    (hends : ¬ BreaksOff line.tokens) (h : line.Holds (a :: l) s)
    (ha : a.kind = .letKw ∨ a.kind = .stateKw) (f : String → Expr → γ) :
    ((do
      advance
      let name ← expectName
      let _ ← expect .equals
      let value ← expression n
      return f name value) env s : Outcome γ).Stays line fun _ => True := by
  rw [advance_bind, expectName_bind]
  -- Behind the keyword, and behind the name, there is a token of the line each time.
  cases l with
  | nil => exact absurd (h.breaksOff (by obtain ha | ha := ha <;> simp [ha, stubs])) hends
  | cons b l =>
    rw [h.next.focus_cons]
    split
    · rename_i hb
      rw [expect_bind]
      cases l with
      | nil => exact absurd (h.breaksOff (by obtain ha | ha := ha <;> simp [ha, hb, stubs])) hends
      | cons c l =>
        rw [h.next.next.focus_cons]
        split
        · exact stays_value hline h.next.next.next _
        · exact ⟨c, l, h.next.next⟩
    · exact ⟨b, l, h.next⟩

theorem stays_clause (hline : line.IsPlain env.scene) (hends : ¬ BreaksOff line.tokens)
    (h : line.Holds (a :: l) s) : (clause n a.kind env s).Stays line fun _ => True := by
  cases n with
  | zero => trivial
  | succ n =>
    have hplain := hline.plain a h.mem
    rw [clause, currentLine_bind]
    cases hkind : a.kind with
    | letKw => exact stays_binding hline hends h (.inl hkind) _
    | stateKw => exact stays_binding hline hends h (.inr hkind) _
    | returnKw =>
      simp only [advance_bind, currentKind_bind]
      split
      · exact ⟨l, trivial, h.next⟩
      · exact stays_value hline h.next _
    | renderKw => exact stays_value hline h.next _
    | importKw => exact ⟨a, l, h⟩
    | text | string | number | trueKw | falseKw | equals => exact stays_value hline h _
    | _ =>
      rw [hkind] at hplain
      cases hplain

theorem stays_importItem (hline : line.IsPlain env.scene) (hends : ¬ BreaksOff line.tokens)
    (h : line.Holds (a :: l) s) (ha : a.kind = .importKw) :
    (importItem env s).Stays line (· = []) := by
  simp only [importItem, currentLine_bind, advance_bind, current_bind]
  cases l with
  | nil => exact absurd (h.breaksOff (by simp [ha, stubs])) hends
  | cons b l =>
    rw [h.next.focus_cons]
    generalize b.kind = kind
    split
    · exact stays_endStatement hline h.next.next _
    · exact stays_endStatement hline h.next.next _
    · exact ⟨b, l, h.next⟩

theorem stays_statementAs (hline : line.IsPlain env.scene) (hends : ¬ BreaksOff line.tokens)
    (h : line.Holds (a :: l) s) : (statementAs n a.kind env s).Stays line (· = []) := by
  cases n with
  | zero => trivial
  | succ n =>
    have hplain := hline.plain a h.mem
    have hclause := stays_clause (n := n) hline hends h
    generalize a.kind = kind at hplain hclause
    unfold statementAs
    split
    · cases hplain
    · cases hplain
    · exact hclause.bind fun st _ _ _ h' => stays_endStatement hline h' st

/-- An item that is read in the line ends with it. -/
theorem stays_item (hline : line.IsPlain env.scene) (hends : ¬ BreaksOff line.tokens)
    (h : line.Holds (a :: l) s) : (item n env s).Stays line (· = []) := by
  have hplain := hline.plain a h.mem
  have hmeant : env.meant? s.cursor = none := by
    rw [Env.meant?, h.focus_cons, hline.uncorrected a h.mem]
    split <;> rfl
  have hstatement : ((do return Item.statement (← statementAs n a.kind)) env s : Outcome Item).Stays
      line (· = []) :=
    (stays_statementAs hline hends h).bind fun _ l' _ hl' h' => ⟨l', hl', h'⟩
  rw [item, effectiveKind_bind, hmeant, h.focus_cons]
  cases hkind : a.kind with
  | importKw => exact stays_importItem hline hends h hkind
  | text | string | number | trueKw | falseKw | equals | letKw | stateKw | returnKw | renderKw =>
    rw [hkind] at hstatement
    exact hstatement
  | _ =>
    rw [hkind] at hplain
    cases hplain

/-! ## Rounds -/

/-- There is a synchronization point at the end of the line. -/
theorem length_le_of_passes {scene : Scene} {passed : List Token} {r : Recovery}
    (hline : line.IsPlain scene) (h : line.Holds (a :: l) s) (hpassed : Passes s.cursor passed r) :
    passed.length ≤ l.length := by
  have hahead : s.cursor.ahead = l ++ line.stop :: line.more := (Cursor.rest_eq_cons.1 h.rest).2
  have hprefix : passed <+: l ++ line.stop :: line.more :=
    hahead ▸ hpassed.isPrefix.trans (List.takeWhile_prefix _)
  -- Otherwise the line end has been passed, too.
  by_contra hlt
  have hstop : line.stop ∈ passed := by
    have hprefix' : l ++ [line.stop] <+: passed := by
      refine List.prefix_of_prefix_length_le ⟨line.more, by simp⟩ hprefix ?_
      rw [List.length_append, List.length_singleton]
      omega
    exact hprefix'.subset (by simp)
  have hsync := hpassed.not_isSyncPoint _ hstop
  rw [hline.stop] at hsync
  cases hsync

/-- A recovery does not go beyond the line end. -/
theorem holds_recovered (hline : line.IsPlain env.scene) (h : line.Holds (a :: l) s)
    {e : SyntaxError} (he : e.IsAt s.cursor) : ∃ l', line.Holds l' (s.recovered env e) := by
  have hposition : e.position.line = line.stop.position.line := by
    rw [he.position, h.line_focus hline]
  unfold State.recovered
  split
  · exact ⟨_, h⟩
  · dsimp only
    have heof : s.cursor.focus.kind ≠ .eof := h.focus_ne hline ⟨rfl, nofun⟩
    obtain ⟨passed, hpassed⟩ := env.scene.recover_passes e.context heof
    have hreport := report_of_recover env.scene s.cursor e.context
    generalize env.scene.recover s.cursor e.context = r at hpassed hreport
    have hlength : passed.length ≤ l.length := length_le_of_passes hline h hpassed
    have hreported : line.Holds (a :: l) (if isMoreSpecific r e then s else s.record e) := by
      split
      · exact h
      · exact h.record hposition
    generalize (if isMoreSpecific r e then s else s.record e) = s₁ at hreported
    have hrecorded : line.Holds (a :: l) (r.error.elim s₁ s₁.record) := by
      obtain ⟨-, hnone⟩ | ⟨e', herror, hposition', -⟩ := hreport
      · rw [hnone]
        exact hreported
      · rw [herror]
        exact hreported.record (by rw [hposition', h.line_focus hline])
    rw [hpassed.advance_eq]
    exact ⟨_, hrecorded.seek (Nat.succ_le_succ hlength)⟩

/-- Whatever becomes of an item in the line, the run goes on in the line. -/
theorem stays_guarded (hline : line.IsPlain env.scene) (hends : ¬ BreaksOff line.tokens)
    (h : line.Holds (a :: l) s) :
    (guarded (some <$> item n) none env s).Stays line fun _ => True := by
  have hprogress (found : Option Item) (l' : List Token) (s' : State) (h' : line.Holds l' s') :
      ((do ensureProgress s.cursor.index; return found) env s' : Outcome (Option Item)).Stays line
        fun _ => True := by
    rw [ensureProgress_bind]
    split
    · rename_i hindex
      cases l' with
      | nil =>
        -- At the line end the index is another one.
        have hlength := congrArg List.length (h.behind.trans h'.behind.symm)
        have hindex : s'.cursor.behind.length = s.cursor.behind.length := hindex.1
        simp at hlength
        omega
      | cons b l' => exact ⟨l', trivial, h'.next⟩
    · exact ⟨l', trivial, h'⟩
  have hitem := stays_item (n := n) hline hends h
  simp only [guarded, cursor_bind, orRecover_bind, map_eq_pure_bind]
  rw [bind_apply]
  cases ho : item n env s with
  | done x s' =>
    rw [ho] at hitem
    obtain ⟨l', -, h'⟩ := hitem
    exact hprogress _ l' s' h'
  | failed e s' =>
    rw [ho] at hitem
    obtain ⟨b, l', h'⟩ := hitem
    obtain ⟨l'', h''⟩ := holds_recovered hline h' ((allFail n).item env s trivial e s' ho)
    exact hprogress _ l'' _ h''
  | exhausted => trivial

/-- No separators stand in the line. -/
theorem skip_eq_self (hline : line.IsPlain env.scene) (h : line.Holds (a :: l) s) :
    s.cursor.skip (fun k => k = .newline || k = .semicolon) = s.cursor := by
  refine Cursor.skip_eq_self ?_
  have hplain := hline.plain a h.mem
  rw [h.focus_cons]
  cases hkind : a.kind <;> rw [hkind] at hplain <;> first | rfl | cases hplain

theorem stays_itemRound (hline : line.IsPlain env.scene) (hends : ¬ BreaksOff line.tokens)
    (h : line.Holds (a :: l) s) : (itemRound (item n) env s).Stays line fun _ => True := by
  simp only [itemRound, skipSeparators, skip_bind, halted_bind, currentKind_bind,
    skip_eq_self hline h]
  split
  · exact ⟨_, trivial, h⟩
  · exact (stays_guarded hline hends h).bind fun _ l' _ _ h' => ⟨l', trivial, h'⟩

/-- If there is room left at the end then the items are read up to the line end first. -/
theorem items_line (hline : line.IsPlain env.scene) (hends : ¬ BreaksOff line.tokens)
    (h : line.Holds l s) {found : List Item} {s' : State} (hdone : items n env s = .done found s')
    (hroom : 0 < s'.room) :
    ∃ m s₁ own rest, line.Holds [] s₁ ∧ items m env s₁ = .done rest s' ∧ found = own ++ rest := by
  induction n generalizing l s found with
  | zero => cases hdone
  | succ n ih =>
    cases l with
    | nil => exact ⟨n + 1, s, [], found, h, hdone, rfl⟩
    | cons a l =>
      have hround := stays_itemRound (n := n) hline hends h
      have hgrows : s.Grows s' := Records.grows (congrArg Outcome.state? hdone)
      rw [items_succ] at hdone
      obtain hlast | ⟨found₁, s₁, found₂, hfound₁, hfound₂, rfl⟩ := done_of_again hdone
      · -- A round is the last one only at the end of the input, or without room.
        have hne : (s.cursor.skip fun k => k = .newline || k = .semicolon).focus.kind ≠ .eof := by
          rw [skip_eq_self hline h]
          exact h.focus_ne hline ⟨rfl, nofun⟩
        exact absurd (more_of_itemRound hlast (hroom.trans_le hgrows.room_le) hne) nofun
      · rw [hfound₁] at hround
        obtain ⟨l', -, h'⟩ := hround
        obtain ⟨m, s₂, own, rest, hs₂, hrest, rfl⟩ := ih h' hfound₂
        exact ⟨m, s₂, found₁ ++ own, rest, hs₂, hrest, (List.append_assoc ..).symm⟩

/-- Nothing is open at the line end. -/
theorem isNeutral_behind {scene : Scene} (hline : line.IsPlain scene) (h : line.Holds [] s) :
    IsNeutral (line.stop :: s.cursor.behind) := by
  intro construct d hd
  rw [← List.append_nil (line.stop :: s.cursor.behind)]
  refine d.isClosed_nil.append fun a ha => Delimiter.kind_ne_opener hd ?_
  obtain rfl | ha := List.mem_cons.1 ha
  · rw [hline.stop]
    rfl
  · refine Kind.isBlockOpener_of_isPlain (hline.plain a ?_)
    rw [← h.behind, List.append_nil]
    exact List.mem_reverse.2 ha

end Line

/-! ## What is behind the line -/

/-- The items behind the line end are read from the first token there on, with the errors of the
    line recorded. -/
theorem items_behind_line {line : Line} {l : List Token} {x : Token} {xs : List Token}
    {found : List Item} {s' : State} (hline : line.IsPlain env.scene)
    (hends : ¬ Line.BreaksOff line.tokens) (hmore : line.more = x :: xs) (h : line.Holds l s)
    (hdone : items n env s = .done found s') (hroom : 0 < s'.room) :
    ∃ m b base room own rest, IsNeutral b ∧
      (∀ e ∈ base, e.position.line = line.stop.position.line) ∧
      items m env { cursor := ⟨b, x, xs⟩, errors := base, room } = .done rest s' ∧
      found = own ++ rest := by
  obtain ⟨m, s₁, own, rest, hs₁, hrest, rfl⟩ := Line.items_line hline hends h hdone hroom
  cases m with
  | zero => cases hrest
  | succ m =>
    refine ⟨m + 1, line.stop :: s₁.cursor.behind, s₁.errors, s₁.room, own, rest,
      Line.isNeutral_behind hline hs₁, hs₁.errors, ?_, rfl⟩
    rw [← hrest]
    refine items_skip m ⟨rfl, rfl⟩ (Eq.symm ?_)
    have hafter : s₁.cursor.rest = [line.stop] ++ x :: xs := hmore ▸ hs₁.rest
    exact Cursor.skip_append hafter fun a ha => by
      rw [List.mem_singleton.1 ha, hline.stop]
      rfl

/-- The second output ends with the first one, `k` lines further down. What comes before is about
    the lines above. -/
structure EndsWith (k : Nat) (output' output : ParseOutput) : Prop where
  items : output.items.map (·.down k) <:+ output'.items
  errors : ∃ errors errors', output'.errors = errors ++ errors' ∧
    (∀ e ∈ errors, e.position.line ≤ k) ∧ List.Forall₂ (SyntaxError.IsDown k) output.errors errors'

/-- Behind a line that does not break off the tokens are read as they are on their own, and
    reported, if there is room for all errors. -/
theorem parse_behind_tokens {line tokens : List Token} {stop : Token} {k : Nat}
    {dictionary : Dictionary} {settings : Settings} {output' : ParseOutput}
    (source source' : Option String)
    (hline : Line.IsPlain ⟨line, stop, tokens.map (·.down k)⟩
      (Env.start source' dictionary settings).scene)
    (hends : ¬ Line.BreaksOff line) (hlast : tokens.getLast?.map (·.kind) = some .eof)
    (hstop : stop.position.line ≤ k) (hbelow : ∀ token ∈ tokens, 1 ≤ token.position.line)
    (hparse : parse (line ++ stop :: tokens.map (·.down k)) source' dictionary settings =
      .ok output') (hcap : output'.errors.length < settings.maxErrors) :
    ∃ output, parse tokens source dictionary settings = .ok output ∧
      EndsWith k output' output := by
  cases htokens : tokens.map (·.down k) with
  | nil => simp [List.map_eq_nil_iff.1 htokens] at hlast
  | cons x xs =>
    rw [htokens] at hline hparse
    have hlast' : (line ++ stop :: x :: xs).getLast?.map (·.kind) = some .eof :=
      htokens ▸ getLast?_append_down hlast
    obtain ⟨c₂, found₂, t₂, hc₂, -, hdone₂, hparse₂⟩ :=
      isParsed_of_getLast? source' dictionary settings hlast'
    obtain rfl : output' = ⟨found₂, t₂.errors.reverse⟩ := Except.ok.inj (hparse.symm.trans hparse₂)
    have hdone := hdone₂ _ (Nat.le_refl _)
    have hspent : t₂.room + t₂.errors.length = settings.maxErrors :=
      (Records.grows (congrArg Outcome.state? hdone)).room_eq
    rw [List.length_reverse] at hcap
    obtain ⟨m, b, base, room, own, rest, hb, hbase, hitems, rfl⟩ :=
      items_behind_line hline hends rfl (Line.holds_start hc₂) hdone (by omega)
    have hspent' : t₂.room + t₂.errors.length = room + base.length :=
      (Records.grows (congrArg Outcome.state? hitems)).room_eq
    -- On its own the second list is parsed with the room that is left behind the line.
    obtain ⟨c₁, found₁, t₁, hc₁, -, hdone₁, hparse₁⟩ :=
      isParsed_of_getLast? source dictionary { settings with maxErrors := room } hlast
    obtain ⟨hrest₁, hbehind₁⟩ := Cursor.rest_of_ofList? hc₁
    have hapart (token : Token) (htoken : token ∈ c₁.tokens) :
        base.head?.map (·.position) ≠ some (token.position.down k) := by
      intro hlaste
      obtain ⟨e, he, hposition⟩ := Option.map_eq_some_iff.1 hlaste
      have hline := congrArg Position.line hposition
      have hline' := hbase e (List.mem_of_mem_head? he)
      have htoken' := hbelow token (Cursor.tokens_ofList? hc₁ ▸ htoken)
      simp only [Position.down] at hline hline'
      omega
    have hagrees : (Env.start source dictionary { settings with maxErrors := room }).Agrees
        (.start source' dictionary settings) := ⟨rfl, rfl, rfl⟩
    have hstart : Relocated k b base (.start c₁ { settings with maxErrors := room })
        { cursor := ⟨b, x, xs⟩, errors := base, room } :=
      relocated_start { settings with maxErrors := room } (by rw [hrest₁, htokens]) hbehind₁ hapart
    obtain ⟨rfl, hrelocated⟩ := eq_of_relocated hb hagrees hstart hdone₁ hitems
    obtain ⟨added, hadded, hdown⟩ := hrelocated.errors
    have hlength : t₁.errors.length + base.length = t₂.errors.length := by
      rw [hadded, List.length_append, hdown.length_eq]
    refine ⟨⟨found₁, t₁.errors.reverse⟩, ?_, List.suffix_append .., base.reverse, added.reverse,
      ?_, ?_, (List.forall₂_reverse_iff ..).2 hdown⟩
    · exact parse_eq_of_room hlast (by omega) hparse₁ (by rw [List.length_reverse]; omega)
    · rw [hadded, List.reverse_append]
    · exact fun e he => (hbase e (List.mem_reverse.1 he)).trans_le hstop

/-- The text is a single line of names, literals, equals signs and the keywords of bindings,
    results and imports. The dictionary does not take the names for something else. -/
structure IsPlainLine (dictionary : Dictionary) (limits : Limits) (l : String) : Prop where
  single : '\n' ∉ l.toList
  lexical : (tokenize l).errors = []
  plain : ∀ token ∈ (tokenize l).tokens.dropLast, token.kind.isPlain = true
  known : ∀ token ∈ (tokenize l).tokens.dropLast, token.kind = .text →
    dictionary.correction? token.text limits.maxEditDistance = none

namespace IsPlainLine

variable {dictionary : Dictionary} {limits : Limits} {l : String} {token : Token}

theorem line_eq_one (h : IsPlainLine dictionary limits l) (htoken : token ∈ (tokenize l).tokens) :
    token.position.line = 1 := by
  have hcount : (Text.body l).count '\n' = 0 := by
    refine List.count_eq_zero_of_not_mem fun hmem => h.single ?_
    obtain ⟨hbody, -⟩ | hmark := Text.toList_cases l
    · exact hbody ▸ hmem
    · exact hmark ▸ List.mem_cons_of_mem _ hmem
  have hbounds := line_of_mem_tokenize htoken
  omega

theorem replacement?_eq_none (h : IsPlainLine dictionary limits l)
    (htoken : token ∈ (tokenize l).tokens.dropLast) {scene : Scene}
    (hdictionary : scene.dictionary = dictionary) (hlimits : scene.limits = limits) :
    scene.replacement? token = none := by
  rw [Scene.replacement?, hdictionary, hlimits]
  split
  · rename_i hkind
    exact Option.map_eq_none_iff.2 (h.known token htoken hkind)
  · rfl

end IsPlainLine

/-- Behind a line that does not break off nothing is hidden: the items end with those of the text
    behind it, and the errors with its errors, if there is room for all of them. -/
theorem parse_behind_line {l t : String} {dictionary : Dictionary} {settings : Settings}
    (hline : IsPlainLine dictionary settings.limits l)
    (hends : ¬ Line.BreaksOff (tokenize l).tokens.dropLast) (ht : t.toList.head? ≠ some '\ufeff') :
    (tokenize (l ++ "\n" ++ t)).errors = (tokenize t).errors.map (·.down 1) ∧
    ∃ output output', parse (tokenize t).tokens (some t) dictionary settings = .ok output ∧
      parse (tokenize (l ++ "\n" ++ t)).tokens (some (l ++ "\n" ++ t)) dictionary settings =
        .ok output' ∧
      (output'.errors.length < settings.maxErrors → EndsWith 1 output' output) := by
  obtain ⟨pieces, p, -, htokens, htokens', herrors⟩ := tokenize_append hline.lexical ht
  have hk : (Text.pieces l.toList).length = 1 := by
    rw [Text.length_pieces, List.count_eq_zero_of_not_mem hline.single]
  have hdrop : (tokenize l).tokens.dropLast = pieces := by rw [htokens, List.dropLast_concat]
  have hend : Token.eof p ∈ (tokenize l).tokens := by rw [htokens]; simp
  have hstop : p.line = 1 := hline.line_eq_one hend
  have hplain : Line.IsPlain ⟨pieces, ⟨.newline, "\n", p⟩, (tokenize t).tokens.map (·.down 1)⟩
      (Env.start (some (l ++ "\n" ++ t)) dictionary settings).scene := by
    refine ⟨rfl, hdrop ▸ hline.plain, fun a ha => ?_,
      fun a ha => hline.replacement?_eq_none (hdrop ▸ ha) rfl rfl⟩
    exact (hline.line_eq_one (htokens ▸ List.mem_append_left _ ha)).trans hstop.symm
  have hlast := isTerminated_tokenize t
  rw [TokenStream.isTerminated, decide_eq_true_eq] at hlast
  rw [hk] at htokens' herrors
  obtain ⟨_, found, s, -, -, -, hparse⟩ :=
    isParsed_of_getLast? (some t) dictionary settings hlast
  obtain ⟨_, found', s', -, -, -, hparse'⟩ := isParsed_of_getLast? (some (l ++ "\n" ++ t))
    dictionary settings (htokens' ▸ getLast?_append_down hlast)
  refine ⟨herrors, _, _, hparse, hparse', fun hcap => ?_⟩
  obtain ⟨output, houtput, hends'⟩ := parse_behind_tokens (some t) (some (l ++ "\n" ++ t)) hplain
    (hdrop ▸ hends) hlast hstop.le (fun token h => (line_of_mem_tokenize h).1)
    (htokens' ▸ hparse') hcap
  obtain rfl := Except.ok.inj (hparse.symm.trans houtput)
  exact hends'

/-- Two items and an error are behind a line that makes no sense. -/
theorem parse_behind_line_of_binding : ∃ (dictionary : Dictionary) (l t : String)
    (output output' : ParseOutput),
    l = "let 1 = x" ∧ t = "let y = = 2\nlet z = 3\nlet = 4\nrender z" ∧
    IsPlainLine dictionary ({} : Settings).limits l ∧
    (tokenize (l ++ "\n" ++ t)).errors = (tokenize t).errors.map (·.down 1) ∧
    parse (tokenize t).tokens (some t) dictionary {} = .ok output ∧
    parse (tokenize (l ++ "\n" ++ t)).tokens (some (l ++ "\n" ++ t)) dictionary {} =
      .ok output' ∧ EndsWith 1 output' output ∧
    output.items.length = 2 ∧ output.errors.length = 2 ∧ output'.errors.length = 3 := by
  let dictionary : Dictionary := { keywords := ["return"] }
  let l := "let 1 = x"
  let t := "let y = = 2\nlet z = 3\nlet = 4\nrender z"
  have hline : IsPlainLine dictionary ({} : Settings).limits l := by
    constructor <;> decide +kernel
  have hends : ¬ Line.BreaksOff (tokenize l).tokens.dropLast := by decide +kernel
  have hparses : (parse (tokenize t).tokens (some t) dictionary {}).toOption.map
      (fun o => (o.items.length, o.errors.length)) = some (2, 2) := by decide +kernel
  have hparses' : (parse (tokenize (l ++ "\n" ++ t)).tokens (some (l ++ "\n" ++ t)) dictionary
      {}).toOption.map (·.errors.length) = some 3 := by decide +kernel
  obtain ⟨herrors, output, output', houtput, houtput', hbehind⟩ :=
    parse_behind_line (t := t) hline hends (by decide)
  rw [houtput] at hparses
  rw [houtput'] at hparses'
  obtain ⟨hitems, hlength⟩ : output.items.length = 2 ∧ output.errors.length = 2 := by
    simpa [Except.toOption] using hparses
  have hlength' : output'.errors.length = 3 := by simpa [Except.toOption] using hparses'
  exact ⟨dictionary, l, t, output, output', rfl, rfl, hline, herrors, houtput, houtput',
    hbehind (by rw [hlength']; decide), hitems, hlength, hlength'⟩

/-- Behind an import without a path the next line is hidden: one binding of two is read. -/
theorem next_line_hidden : ∃ (dictionary : Dictionary) (l t : String)
    (output output' : ParseOutput),
    IsPlainLine dictionary ({} : Settings).limits l ∧ t.toList.head? ≠ some '\ufeff' ∧
    parse (tokenize t).tokens (some t) dictionary {} = .ok output ∧
    parse (tokenize (l ++ "\n" ++ t)).tokens (some (l ++ "\n" ++ t)) dictionary {} =
      .ok output' ∧
    output'.errors.length < ({} : Settings).maxErrors ∧
    ¬ output.items.map (·.down 1) <:+ output'.items := by
  let dictionary : Dictionary := { keywords := ["return"] }
  let l := "import"
  let t := "let x = 1\nlet y = 2\n"
  have hline : IsPlainLine dictionary ({} : Settings).limits l := by
    constructor <;> decide +kernel
  have hparses : (parse (tokenize t).tokens (some t) dictionary {}).toOption.map
      (·.items.length) = some 2 := by decide +kernel
  have hparses' : (parse (tokenize (l ++ "\n" ++ t)).tokens (some (l ++ "\n" ++ t)) dictionary
      {}).toOption.map (fun o => (o.items.length, o.errors.length)) = some (1, 1) := by
    decide +kernel
  cases houtput : parse (tokenize t).tokens (some t) dictionary {} with
  | error fault =>
    rw [houtput] at hparses
    cases hparses
  | ok output =>
    cases houtput' : parse (tokenize (l ++ "\n" ++ t)).tokens (some (l ++ "\n" ++ t)) dictionary
        {} with
    | error fault =>
      rw [houtput'] at hparses'
      cases hparses'
    | ok output' =>
      rw [houtput] at hparses
      rw [houtput'] at hparses'
      have hitems : output.items.length = 2 := by simpa [Except.toOption] using hparses
      obtain ⟨hitems', herrors'⟩ : output'.items.length = 1 ∧ output'.errors.length = 1 := by
        simpa [Except.toOption] using hparses'
      refine ⟨dictionary, l, t, output, output', hline, by decide, houtput, houtput',
        by rw [herrors']; decide, fun hsuffix => ?_⟩
      have hle := hsuffix.length_le
      rw [List.length_map, hitems, hitems'] at hle
      exact absurd hle (by decide)

end Parser

end SunLint
