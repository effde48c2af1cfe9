import SunLint.Recovery.Scene
import SunLint.Tree

/-!
# Programs further down

What is read from a text has lines in it. If the text stands further down in another
one, so many lines that it starts at the first column of a line again, then all lines are
greater by their number and nothing else changes. `down` does this to positions, tokens
and trees.

An error also has a context, with the tokens nearby and the line of the source. Those
depend on what stands around the text, so `SyntaxError.IsDown` leaves them out; and it
leaves out the message, since some messages name a line.
-/

namespace SunLint

variable {k : Nat}

/-! ## Tokens -/

/-- The position `k` lines further down. -/
def Position.down (k : Nat) (p : Position) : Position := ⟨p.line + k, p.column⟩

@[simp]
theorem Position.line_down (k : Nat) (p : Position) : (p.down k).line = p.line + k := rfl

theorem Position.down_inj {p q : Position} : p.down k = q.down k ↔ p = q := by
  obtain ⟨line, column⟩ := p
  obtain ⟨line', column'⟩ := q
  simp [down]

@[simp]
theorem Position.down_zero (p : Position) : p.down 0 = p := rfl

/-- The token `k` lines further down. -/
def Token.down (k : Nat) (t : Token) : Token := { t with position := t.position.down k }

@[simp]
theorem Token.kind_down (k : Nat) (t : Token) : (t.down k).kind = t.kind := rfl

@[simp]
theorem Token.text_down (k : Nat) (t : Token) : (t.down k).text = t.text := rfl

@[simp]
theorem Token.position_down (k : Nat) (t : Token) : (t.down k).position = t.position.down k := rfl

@[simp]
theorem Token.down_zero (t : Token) : t.down 0 = t := rfl

/-! ## Trees -/

mutual

/-- The statement `k` lines further down. -/
def Statement.down (k : Nat) : Statement → Statement
  | .letBinding name value line => .letBinding name value (line + k)
  | .stateBinding name value line => .stateBinding name value (line + k)
  | .when condition result otherwise line =>
    .when condition (result.down k) (Statement.downOfElse k otherwise) (line + k)
  | .ret value line => .ret value (line + k)
  | .render value line => .render value (line + k)
  | .expr value line => .expr value (line + k)
  | .block body line => .block (Statement.downOfList k body) (line + k)
  | .declaration callable => .declaration (Statement.downOfCallable k callable)
  | .error line => .error (line + k)

/-- The second result of a condition, if there is one, `k` lines further down. -/
def Statement.downOfElse (k : Nat) : Option Statement → Option Statement
  | none => none
  | some s => some (s.down k)

/-- The statements `k` lines further down. -/
def Statement.downOfList (k : Nat) : List Statement → List Statement
  | [] => []
  | s :: l => s.down k :: Statement.downOfList k l

/-- The function or component `k` lines further down. -/
def Statement.downOfCallable (k : Nat) : Callable Statement → Callable Statement
  | ⟨form, name, params, body, line⟩ =>
    ⟨form, name, params, Statement.downOfList k body, line + k⟩

end

@[simp]
theorem Statement.downOfList_eq (k : Nat) (l : List Statement) :
    downOfList k l = l.map (down k) := by
  induction l with
  | nil => rfl
  | cons s l ih => rw [downOfList, ih, List.map_cons]

/-- The function or component `k` lines further down. -/
def Callable.down (k : Nat) (c : Declaration) : Declaration := Statement.downOfCallable k c

/-- The item `k` lines further down. -/
def Item.down (k : Nat) : Item → Item
  | .directive name args line => .directive name args (line + k)
  | .declaration callable => .declaration (callable.down k)
  | .imported path line => .imported path (line + k)
  | .exported callable line => .exported (callable.down k) (line + k)
  | .statement s => .statement (s.down k)

mutual

@[simp]
theorem Statement.down_zero : ∀ s : Statement, s.down 0 = s
  | .letBinding _ _ _ => rfl
  | .stateBinding _ _ _ => rfl
  | .when _ result otherwise _ => by
    rw [down, result.down_zero, Statement.downOfElse_zero otherwise, Nat.add_zero]
  | .ret _ _ => rfl
  | .render _ _ => rfl
  | .expr _ _ => rfl
  | .block body _ => by rw [down, Statement.downOfList_zero body, Nat.add_zero]
  | .declaration callable => by rw [down, Statement.downOfCallable_zero callable]
  | .error _ => rfl

theorem Statement.downOfElse_zero : ∀ o : Option Statement, Statement.downOfElse 0 o = o
  | none => rfl
  | some s => by rw [downOfElse, s.down_zero]

theorem Statement.downOfList_zero : ∀ l : List Statement, Statement.downOfList 0 l = l
  | [] => rfl
  | s :: l => by rw [downOfList, s.down_zero, Statement.downOfList_zero l]

theorem Statement.downOfCallable_zero :
    ∀ c : Callable Statement, Statement.downOfCallable 0 c = c
  | ⟨_, _, _, body, _⟩ => by rw [downOfCallable, Statement.downOfList_zero body, Nat.add_zero]

end

@[simp]
theorem Item.down_zero (i : Item) : i.down 0 = i := by
  cases i <;> simp [down, Callable.down, Statement.downOfCallable_zero]

/-! ## Errors -/

/-- The second error is the first one `k` lines further down, up to its message and to what
    stands around it. -/
structure SyntaxError.IsDown (k : Nat) (e e' : SyntaxError) : Prop where
  code : e'.code = e.code
  severity : e'.severity = e.severity
  position : e'.position = e.position.down k
  token : e'.token = e.token.down k
  expected : e'.expected = e.expected
  suggestions : e'.suggestions = e.suggestions
  construct : e'.context.construct = e.context.construct
  enclosing : e'.context.enclosing = e.context.enclosing

theorem SyntaxError.IsDown.refl (e : SyntaxError) : e.IsDown 0 e :=
  ⟨rfl, rfl, rfl, rfl, rfl, rfl, rfl, rfl⟩

/-- What is recorded with the same dictionary about the same token further down. -/
theorem Scene.isDown_recordLed {scene scene' : Scene} {context context' : Context}
    (hdictionary : scene'.dictionary = scene.dictionary)
    (hconstruct : context'.construct = context.construct)
    (henclosing : context'.enclosing = context.enclosing) (lead : Option String)
    (code : ErrorCode) (severity : Severity) (message message' : String) (token : Token)
    (expected : List Kind) :
    SyntaxError.IsDown k (scene.recordLed lead code severity message token expected context)
      (scene'.recordLed lead code severity message' (token.down k) expected context') where
  code := rfl
  severity := rfl
  position := rfl
  token := rfl
  expected := rfl
  suggestions := by
    simp only [recordLed, hdictionary, hconstruct]
    rfl
  construct := hconstruct
  enclosing := henclosing

end SunLint
