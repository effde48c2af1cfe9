import SunLint.Proofs.Parser.Continuation

/-!
# Programs that break off

A directive stands between statements and in none of them, so a clean run gets to a line end in
front of a directive only when nothing is open. There the list of tokens may as well end: the run
on the shorter list goes side by side with the one on the longer list up to that line end
(`Coupling.cut`), and finds the end of the input where the other one finds a directive.

* `items_cut`: the items in front of the directive are read without an error;
* `parse_cut`: so the list is parsed without an error up to the line end.
-/

namespace SunLint.Parser

open Recovery

variable {stop newline next : Token} {more : List Token} {env env' : Env} {s t s' : State} {n : Nat}

namespace Coupling

/-- A run on a list with a directive behind a line end, and one on the list that ends there. -/
def cut (stop newline next : Token) (more : List Token) : Coupling where
  lines := 0
  strict := True
  Sim s t := ∃ l, Parallel (newline :: next :: more) [stop] l s t

theorem aligned_cut (hnewline : newline.kind = .newline)
    (h : (cut stop newline next more).Sim s t) (hne : s.cursor.focus.kind ≠ .newline) :
    (cut stop newline next more).Aligned s t := by
  obtain ⟨l, h⟩ := h
  cases l with
  | nil =>
    rw [h.focus_of_nil.1] at hne
    exact absurd hnewline hne
  | cons a l =>
    rw [Aligned, h.focus_eq]
    rfl

theorem pass_cut (hstop : stop.kind = .eof) (hnewline : newline.kind = .newline)
    (h : (cut stop newline next more).Sim s t)
    (haligned : (cut stop newline next more).Aligned s t) :
    (cut stop newline next more).Sim (s.moveTo s.cursor.next) (t.moveTo t.cursor.next) := by
  obtain ⟨l, h⟩ := h
  cases l with
  | nil =>
    rw [Aligned, h.focus_of_nil.1, h.focus_of_nil.2] at haligned
    rw [haligned, Token.kind_down, hnewline] at hstop
    cases hstop
  | cons a l => exact ⟨l, h.next⟩

/-- Behind line ends the first run is at the directive, or both runs go on. -/
theorem skip_cut (hnewline : newline.kind = .newline) (hnext : next.kind = .directive)
    {p : Kind → Bool} (hp : p .newline = true ∧ p .directive = false)
    (h : (cut stop newline next more).Sim s t) :
    (s.cursor.skip p).focus.kind = .directive ∨
      ∃ a l, Parallel (newline :: next :: more) [stop] (a :: l) (s.moveTo (s.cursor.skip p))
        (t.moveTo (t.cursor.skip p)) := by
  obtain ⟨l, h⟩ := h
  obtain hl | ⟨-, a, l₂, -, -, h'⟩ := h.skip p
  · have hrest : s.cursor.rest = (l ++ [newline]) ++ next :: more := by
      rw [h.abreast.left, List.append_assoc]
      rfl
    refine .inl ?_
    rw [Cursor.skip_of_rest hrest (fun a ha => ?_) (hnext ▸ hp.2), hnext]
    obtain ha | ha := List.mem_append.1 ha
    · exact hl a ha
    · rw [List.mem_singleton.1 ha, hnewline]
      exact hp.1
  · exact .inr ⟨a, l₂, h'⟩

theorem steady_cut (hstop : stop.kind = .eof) (hnewline : newline.kind = .newline)
    (hnext : next.kind = .directive) : (cut stop newline next more).Steady where
  ready := fun _ ⟨_, h⟩ => h.ready
  focus := by
    intro s t h
    by_cases hne : s.cursor.focus.kind = .newline
    · exact .inr ⟨trivial, h.choose_spec.ready.clean, by rw [hne]; rfl⟩
    · exact .inl (aligned_cut hnewline h hne)
  next h haligned _ _ := pass_cut hstop hnewline h haligned
  skipNewlines := by
    intro s t h
    obtain hk | ⟨a, l, h'⟩ := skip_cut (p := (· = .newline)) hnewline hnext ⟨rfl, rfl⟩ h
    · refine .inr ⟨trivial, h.choose_spec.ready.clean.moveTo _, ?_⟩
      rw [State.cursor_moveTo, hk]
      rfl
    · exact .inl ⟨_, h'⟩
  record := fun _ _ => .inl trivial

theorem stops_cut (hstop : stop.kind = .eof) : (cut stop newline next more).Stops := by
  rintro s t ⟨l, h⟩ hstuck
  cases l with
  | nil =>
    rw [h.focus_of_nil.2]
    exact Token.not_continues (by rw [hstop]; rfl)
  | cons a l =>
    rw [h.focus_eq]
    exact Token.not_continues hstuck.isBarrier

section

variable (hstop : stop.kind = .eof) (hnewline : newline.kind = .newline)
  (hnext : next.kind = .directive)
include hstop hnewline hnext

/-- There is nothing special about a header, in which a clean run does not come to the line end. -/
theorem header_cut (construct : Construct) {kind : Kind} (hkind : kind ≠ .newline) :
    (cut stop newline next more).Header (cut stop newline next more) construct kind := by
  refine (steady_cut hstop hnewline hnext).header construct
    (fun h haligned _ => pass_cut hstop hnewline h haligned) (fun {s t} h => ?_)
    fun _ _ => .inl trivial
  by_cases hne : s.cursor.focus.kind = .newline
  · exact .inr ⟨trivial, hne ▸ hkind.symm⟩
  · exact .inl (aligned_cut hnewline h hne)

theorem complete_cut : (cut stop newline next more).Complete where
  toSteady := steady_cut hstop hnewline hnext
  pass h haligned _ _ := pass_cut hstop hnewline h haligned
  edge := by
    rintro s t ⟨l, h⟩
    cases l with
    | nil =>
      refine .inr ⟨trivial, ?_, ?_⟩
      · rw [h.focus_of_nil.1, hnewline]
        rfl
      · rw [h.focus_of_nil.2, hstop]
        rfl
    | cons a l => exact .inl (by rw [Aligned, h.focus_eq]; rfl)
  skipSeparators := by
    intro s t h
    obtain hk | ⟨a, l, h'⟩ := skip_cut (p := fun k => k = .newline || k = .semicolon) hnewline
      hnext ⟨rfl, rfl⟩ h
    · exact .inr ⟨trivial, by rw [hk]; rfl⟩
    · exact .inl ⟨_, h'⟩
  room := by
    rintro s t ⟨l, h⟩
    rw [h.room]
  isJuxtaposed := by
    rintro s t ⟨l, h⟩ - htext
    exact h.isJuxtaposed_eq (by rw [hnewline]; rfl) (by rw [hstop]; rfl) htext
  lastErrorPosition := fun _ => .inl trivial
  index := fun ⟨_, h⟩ ⟨_, h'⟩ _ _ => h.index_eq_iff h'
  recovered := fun _ _ _ _ => .inl trivial
  callable := by
    intro s t form h haligned _
    have hs := pass_cut hstop hnewline h haligned
    refine ⟨_, header_cut hstop hnewline hnext form.construct (by decide), hs,
      fun htext hstuck hparen => ?_⟩
    have haligned' := aligned_cut hnewline hs (by rw [State.cursor_moveTo, htext]; decide)
    exact stops_cut hstop (pass_cut hstop hnewline hs haligned') hstuck (.inl hparen)
  conditional := fun h haligned _ =>
    ⟨_, (header_cut hstop hnewline hnext .when (by decide)).orThen, stops_cut hstop,
      pass_cut hstop hnewline h haligned⟩

end

end Coupling

/-! ## Items -/

/-- The items in front of the directive are read without an error where the list ends there. -/
theorem items_cut (hstop : stop.kind = .eof) (hnewline : newline.kind = .newline)
    (hnext : next.kind = .directive) (hagrees : env.Agrees env') {found : List Item}
    (h : (Coupling.cut stop newline next more).Sim s t)
    (hsingle : ∀ y ∈ s.cursor.tokens.dropLast, y.kind ≠ .eof)
    (hdone : items n env s = .done found s') (hclean : s'.IsClean) :
    ∃ found' t', items n env' t = .done found' t' ∧ t'.errors = [] := by
  -- By induction on the depth: behind a round both runs are at the same place again.
  induction n generalizing s t found with
  | zero => cases hdone
  | succ n ih =>
    obtain ⟨l, h⟩ := h
    rw [items_succ]
    obtain hl | ⟨-, a, l', -, -, h'⟩ := h.skip fun k => k = .newline || k = .semicolon
    · -- Only separators are left of the shorter list.
      have hskip := Cursor.skip_of_rest (p := fun k => k = .newline || k = .semicolon)
        h.abreast.right hl (by rw [hstop]; rfl)
      rw [again, bind_apply, itemRound_of_eof (item n) env' (by rw [hskip, hstop])]
      exact ⟨_, _, rfl, h.errors⟩
    · have hne : (s.cursor.skip fun k => k = .newline || k = .semicolon).focus.kind ≠ .eof := by
        intro heof
        have hahead := (Cursor.rest_eq_cons.1 h'.abreast.left).2
        rw [State.cursor_moveTo,
          Cursor.ahead_eq_nil (by rw [Cursor.tokens_skip]; exact hsingle) heof] at hahead
        simp at hahead
      rw [items_succ] at hdone
      obtain hlast | ⟨found₁, s₁, found₂, hfound₁, hfound₂, rfl⟩ := done_of_again hdone
      · exact absurd (more_of_itemRound hlast h.ready.clean.room hne) Bool.false_ne_true
      · have hs₁ : s₁.IsClean := by
          have hgrows : s₁.Grows s' := Records.grows (congrArg Outcome.state? hfound₂)
          exact hgrows.isClean hclean
        obtain ⟨t₁, ht₁, h₁⟩ := itemRound_coupled
          (Coupling.complete_cut hstop hnewline hnext) rfl ⟨hagrees, trivial⟩ ⟨_, h'⟩
          (by rw [Coupling.Aligned, h'.focus_eq]; rfl) hfound₁ hs₁
        obtain ⟨-, hle, -⟩ := itemRound_reads n h.ready _ _ hfound₁ hs₁
        obtain ⟨found', t', ht', herrors⟩ := ih h₁ (by rw [← hle.1]; exact hsingle) hfound₂
        refine ⟨found₁ ++ found', t', ?_, herrors⟩
        rw [again_of_done ht₁, map_eq_pure_bind, bind_apply, ht']
        rfl

/-- A list that is parsed without an error may end in front of a directive on a new line. -/
theorem parse_cut {pieces : List Token} {dictionary : Dictionary} {settings : Settings}
    {found : List Item} (source source' : Option String)
    (hsingle : ∀ y ∈ (pieces ++ newline :: next :: more).dropLast, y.kind ≠ .eof)
    (hstop : stop.kind = .eof) (hnewline : newline.kind = .newline)
    (hnext : next.kind = .directive) (hcap : 1 ≤ settings.maxErrors)
    (hlast : (pieces ++ newline :: next :: more).getLast?.map (·.kind) = some .eof)
    (hclean : parse (pieces ++ newline :: next :: more) source dictionary settings =
      .ok ⟨found, []⟩) :
    ∃ found', parse (pieces ++ [stop]) source' dictionary settings = .ok ⟨found', []⟩ := by
  obtain ⟨c, found₁, s, hc, hready, hdone, hparse, hclean'⟩ :=
    exists_run source dictionary hlast hcap
  rw [hclean] at hparse
  obtain ⟨rfl, herrors⟩ : found = found₁ ∧ [] = s.errors.reverse := by simpa using hparse
  have hend : (pieces ++ [stop]).getLast?.map (·.kind) = some .eof := by simp [hstop]
  obtain ⟨c', found₂, t, hc', hready', hdone', hparse'⟩ :=
    isParsed_of_getLast? source' dictionary settings hend
  obtain ⟨hrest, hbehind⟩ := Cursor.rest_of_ofList? hc
  obtain ⟨hrest', hbehind'⟩ := Cursor.rest_of_ofList? hc'
  have hsim : (Coupling.cut stop newline next more).Sim (.start c settings) (.start c' settings) :=
    ⟨pieces, hready, rfl, rfl, hbehind'.trans hbehind.symm, hrest, hrest'⟩
  let n := max (depthFor (pieces ++ newline :: next :: more).length)
    (depthFor (pieces ++ [stop]).length)
  have hdone_n : items n (.start source dictionary settings) (.start c settings) =
      .done found s := by
    rw [Below.of_le items_stable (Nat.le_max_left _ _) _ _ (by rw [hdone]; nofun), hdone]
  have hagrees : (Env.start source dictionary settings).Agrees
      (.start source' dictionary settings) := ⟨rfl, rfl, rfl⟩
  obtain ⟨found', t', ht', hnone⟩ := items_cut hstop hnewline hnext hagrees hsim
    (by rw [show (State.start c settings).cursor.tokens = _ from Cursor.tokens_ofList? hc]
        exact hsingle)
    hdone_n (hclean' herrors.symm)
  rw [hdone' n (Nat.le_max_right _ _)] at ht'
  obtain ⟨rfl, rfl⟩ : found₂ = found' ∧ t = t' := by simpa using ht'
  rw [hnone] at hparse'
  exact ⟨_, hparse'⟩

end SunLint.Parser
