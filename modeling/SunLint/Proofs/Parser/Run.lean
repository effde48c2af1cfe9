import SunLint.Parser.Program
import SunLint.Proofs.Parser.Order

/-!
# Runs of parsers

A run of a parser is followed step by step. For every parser that calls no other
one in turn there is an equation that says how a run goes on behind it: from which
result, and in which state. What the state becomes when an error is recorded or
recovered from has a name of its own.
-/

namespace SunLint.Parser

variable {α β : Type}

instance : LawfulMonad Parser := LawfulMonad.mk' Parser
  (fun p => by
    funext env s
    change (p >>= fun a => pure a) env s = p env s
    rw [bind_apply]
    cases p env s <;> rfl)
  (fun _ _ => rfl)
  (fun p f g => by
    funext env s
    simp only [bind_apply]
    cases p env s <;> rfl)

/-! ## Equations -/

/-- The context of a place. -/
def Env.contextAt (env : Env) (c : Cursor) : Context :=
  env.scene.context c (env.constructs.headD .topLevel) env.constructs.tail.reverse

/-- The state with the error recorded, if there was room for it. -/
def State.record (s : State) (e : SyntaxError) : State :=
  match s.room with
  | 0 => s
  | room + 1 => { s with errors := e :: s.errors, room := room }

/-- The state at another place. -/
def State.moveTo (s : State) (c : Cursor) : State := { s with cursor := c }

/-- The error that the token under the cursor is not one of those expected. -/
def Env.unexpectedError (env : Env) (c : Cursor) (expected : List Kind) : SyntaxError :=
  env.scene.recordError
    (if expected.isEmpty then "Unexpected token '" ++ c.focus.display ++ "'"
      else "Expected " ++ alternatives expected ++ ", found '" ++ c.focus.display ++ "'")
    c.focus expected (env.contextAt c)

variable {env : Env} {s : State}

@[simp]
theorem State.cursor_record (s : State) (e : SyntaxError) : (s.record e).cursor = s.cursor := by
  unfold State.record
  split <;> rfl

theorem State.record_eq (h : s.room ≠ 0) (e : SyntaxError) :
    (s.record e).errors = e :: s.errors ∧ (s.record e).room + 1 = s.room := by
  unfold State.record
  split
  · rename_i hzero
    exact absurd hzero h
  · rename_i room hroom
    exact ⟨rfl, hroom.symm⟩

@[simp]
theorem State.cursor_moveTo (s : State) (c : Cursor) : (s.moveTo c).cursor = c := rfl

@[simp]
theorem cursor_bind (f : Cursor → Parser β) : (cursor >>= f) env s = f s.cursor env s := rfl

@[simp]
theorem scene_bind (f : Scene → Parser β) : (scene >>= f) env s = f env.scene env s := rfl

@[simp]
theorem current_bind (f : Token → Parser β) : (current >>= f) env s = f s.cursor.focus env s :=
  rfl

@[simp]
theorem currentKind_bind (f : Kind → Parser β) :
    (currentKind >>= f) env s = f s.cursor.focus.kind env s := rfl

@[simp]
theorem currentLine_bind (f : Nat → Parser β) :
    (currentLine >>= f) env s = f s.cursor.focus.position.line env s := rfl

@[simp]
theorem context_bind (f : Context → Parser β) :
    (context >>= f) env s = f (env.contextAt s.cursor) env s := rfl

@[simp]
theorem halted_bind (f : Bool → Parser β) : (halted >>= f) env s = f (s.room = 0) env s := rfl

@[simp]
theorem lastErrorPosition_bind (f : Option Position → Parser β) :
    (lastErrorPosition >>= f) env s = f (s.errors.head?.map (·.position)) env s := rfl

@[simp]
theorem advance_bind (f : Unit → Parser β) :
    (advance >>= f) env s = f () env (s.moveTo s.cursor.next) := rfl

@[simp]
theorem skip_bind (p : Kind → Bool) (f : Unit → Parser β) :
    (skip p >>= f) env s = f () env (s.moveTo (s.cursor.skip p)) := rfl

@[simp]
theorem report_bind (e : SyntaxError) (f : Unit → Parser β) :
    (report e >>= f) env s = f () env (s.record e) := rfl

@[simp]
theorem coded_bind (code : ErrorCode) (severity : Severity) (message : String)
    (expected : List Kind) (f : SyntaxError → Parser β) :
    (coded code severity message expected >>= f) env s =
      f (env.scene.recordCoded code severity message s.cursor.focus expected
        (env.contextAt s.cursor)) env s := rfl

theorem within_apply (construct : Construct) (p : Parser α) :
    within construct p env s = p { env with constructs := construct :: env.constructs } s := rfl

theorem eat_bind (kind : Kind) (f : Bool → Parser β) :
    (eat kind >>= f) env s =
      if s.cursor.focus.kind = kind then f true env (s.moveTo s.cursor.next)
      else f false env s := by
  simp only [eat, bind_assoc, currentKind_bind]
  split <;> rfl

theorem expect_bind (kind : Kind) (f : Token → Parser β) :
    (expect kind >>= f) env s =
      if s.cursor.focus.kind = kind then f s.cursor.focus env (s.moveTo s.cursor.next)
      else .failed (env.unexpectedError s.cursor [kind]) s := by
  simp only [expect, bind_assoc, current_bind]
  split <;> rfl

theorem expectName_bind (f : String → Parser β) :
    (expectName >>= f) env s =
      if s.cursor.focus.kind = .text then f s.cursor.focus.text env (s.moveTo s.cursor.next)
      else .failed (env.unexpectedError s.cursor [.text]) s := by
  simp only [expectName, bind_assoc, expect_bind, pure_bind]

theorem endStatement_bind (f : Unit → Parser β) :
    (endStatement >>= f) env s =
      if s.cursor.focus.kind.endsStatement then f () env s
      else .failed (env.unexpectedError s.cursor [.newline]) s := by
  simp only [endStatement, bind_assoc, currentKind_bind]
  split <;> rfl

theorem delimiter_bind (kind : Kind) (f : Unit → Parser β) :
    (delimiter kind >>= f) env s =
      if s.cursor.focus.kind = kind then f () env (s.moveTo s.cursor.next)
      else match env.scene.missingDelimiter? s.cursor (env.contextAt s.cursor) with
        | some e => f () env (s.record e)
        | none => .failed (env.unexpectedError s.cursor [kind]) s := by
  simp only [delimiter, bind_assoc, eat_bind]
  split
  · rfl
  · simp only [Bool.false_eq_true, if_false, bind_assoc, scene_bind, cursor_bind, context_bind]
    cases env.scene.missingDelimiter? s.cursor (env.contextAt s.cursor) <;> rfl

theorem ensureProgress_bind (start : Nat) (f : Unit → Parser β) :
    (ensureProgress start >>= f) env s =
      if s.cursor.index = start ∧ s.cursor.focus.kind ≠ .eof then f () env (s.moveTo s.cursor.next)
      else f () env s := by
  simp only [ensureProgress, bind_assoc, cursor_bind, currentKind_bind]
  split <;> rfl

/-- A directive behind the look at its name, whether the dictionary has it or not. -/
def directiveRest (n : Nat) (token : Token) : Parser Item := do
  advance
  let args ← within .directive (directiveArgs n)
  endStatement
  return .directive token.text args token.position.line

/-! ## Misspelled keywords -/

/-- The keyword that the word under the cursor is taken for, if it is not taken for
    itself. -/
def Env.meant? (env : Env) (c : Cursor) : Option Token :=
  if c.focus.kind = .text && isJuxtaposed c then
    (env.scene.replacement? c.focus).filter (·.kind.startsDeclaration)
  else none

theorem effectiveKind_bind (f : Kind → Parser β) :
    (effectiveKind >>= f) env s =
      match env.meant? s.cursor with
      | some meant => f meant.kind env
          (s.record (env.scene.recordMisspelling s.cursor.focus meant.text
            (env.contextAt s.cursor)))
      | none => f s.cursor.focus.kind env s := by
  simp only [effectiveKind, Env.meant?, bind_assoc, current_bind, cursor_bind]
  split
  · simp only [bind_assoc, scene_bind]
    cases env.scene.replacement? s.cursor.focus with
    | none => rfl
    | some meant =>
      cases h : meant.kind.startsDeclaration <;>
        simp [Option.filter, h]
  · rfl

/-- The kind is one that the token under the cursor may count as: it is the end of
    the input only if the token is. -/
def Suits (kind : Kind) (c : Cursor) : Prop := c.focus.kind = .eof → kind = .eof

/-- Only words are taken for keywords, and only for such as start a declaration. -/
theorem Env.meant?_eq_some {c : Cursor} {meant : Token} (h : env.meant? c = some meant) :
    c.focus.kind = .text ∧ meant.kind.startsDeclaration = true := by
  unfold Env.meant? at h
  split at h
  · rename_i hc
    rw [Bool.and_eq_true, decide_eq_true_eq] at hc
    exact ⟨hc.1, (Option.filter_eq_some_iff.1 h).2⟩
  · cases h

/-- A word is taken for what the dictionary has in its stead. -/
theorem Env.replacement?_of_meant? {c : Cursor} {meant : Token} (h : env.meant? c = some meant) :
    env.scene.replacement? c.focus = some meant := by
  unfold Env.meant? at h
  split at h
  · exact (Option.filter_eq_some_iff.1 h).1
  · cases h

/-! ## Recoveries -/

/-- The state after the recovery from an error. -/
def State.recovered (env : Env) (s : State) (e : SyntaxError) : State :=
  if s.room = 0 then s
  else
    let r := env.scene.recover s.cursor e.context
    let s₁ := if isMoreSpecific r e then s else s.record e
    let s₂ := r.error.elim s₁ s₁.record
    s₂.moveTo (s₂.cursor.seek r.advance)

theorem recoverFrom_bind (e : SyntaxError) (f : Unit → Parser β) :
    (recoverFrom e >>= f) env s = f () env (s.recovered env e) := by
  simp only [recoverFrom, State.recovered, bind_assoc, halted_bind, decide_eq_true_eq]
  split
  · rfl
  · simp only [bind_assoc, scene_bind, cursor_bind]
    cases env.scene.recover s.cursor e.context with
    | mk strategy advance error amendment => 
      cases error <;> cases isMoreSpecific _ e <;> rfl

/-- A recovery does not go back, whatever it records. -/
theorem State.le_cursor_recovered (env : Env) (s : State) (e : SyntaxError) :
    s.cursor ≤ (s.recovered env e).cursor := by
  have hrecord (c : Cursor) (error : Option SyntaxError) (s₁ : State) (h : s₁.cursor = c) :
      (error.elim s₁ s₁.record).cursor = c := by
    cases error <;> simp [h]
  unfold State.recovered
  split
  · exact le_refl _
  · rw [State.cursor_moveTo, hrecord s.cursor]
    · exact Cursor.le_seek _ _
    · split <;> simp

theorem orRecover_bind (p : Parser α) (fallback : α) (f : α → Parser β) :
    (orRecover p fallback >>= f) env s =
      match p env s with
      | .done a s' => f a env s'
      | .failed e s' => f fallback env (s'.recovered env e)
      | .exhausted => .exhausted := by
  rw [bind_apply, orRecover]
  cases h : p env s with
  | done a s' => rfl
  | failed e s' =>
    simp only [recoverFrom_bind]
    rfl
  | exhausted => rfl

end SunLint.Parser
