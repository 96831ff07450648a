import Calculator.Proofs.Applications
import Calculator.Proofs.ParseTrees

namespace Calculator

namespace Expr

/-- How an operation between two expressions turns out: its value or error, and what is carried
out for it. -/
inductive BinaryResult (op : Operator) (offset : Nat) (left right : Expr) :
    Except EvalError Binary64 → List Application → Prop
  | left : left.eval = .error e → BinaryResult op offset left right (.error e) left.applications
  | right : left.eval = .ok x → right.eval = .error e →
      BinaryResult op offset left right (.error e) (left.applications ++ right.applications)
  | divisionByZero : left.eval = .ok x → right.eval = .ok y → op.value? x y = none →
      BinaryResult op offset left right (.error (.divisionByZero offset))
        (left.applications ++ right.applications)
  | value : left.eval = .ok x → right.eval = .ok y → op.value? x y = some z →
      BinaryResult op offset left right (.ok z)
        (left.applications ++ right.applications ++ [⟨op, x, y, z⟩])

theorem binaryResult (op : Operator) (offset : Nat) (left right : Expr) :
    BinaryResult op offset left right (binary op offset left right).eval
      (binary op offset left right).applications := by
  cases hl : left.eval with
  | error e =>
    simp only [eval, applications, hl]
    exact .left hl
  | ok x =>
    cases hr : right.eval with
    | error e =>
      simp only [eval, applications, hl, hr]
      exact .right hl hr
    | ok y =>
      simp only [eval, applications, hl, hr, Operator.apply]
      cases hv : op.value? x y with
      | none => exact .divisionByZero hl hr hv
      | some z => exact .value hl hr hv

/-- The operators of the expression in post-order, each with its operands. -/
def nodes : Expr → List Expr
  | .number _ _ => []
  | .group _ body _ => body.nodes
  | .binary op offset left right => left.nodes ++ right.nodes ++ [.binary op offset left right]

/-- The operation at the top of an expression, where its operands have values and it has one too. -/
def operation? : Expr → Option Application
  | .binary op _ left right =>
    match left.eval, right.eval with
    | .ok x, .ok y => (op.value? x y).map fun value => ⟨op, x, y, value⟩
    | _, _ => none
  | _ => none

/-- The operations are those of the nodes in post-order: of all nodes, or of those before the
first division by zero. -/
inductive Performs (e : Expr) (applied : List Application) : Prop
  | all : e.eval = .ok x → e.nodes.map operation? = applied.map some → Performs e applied
  | cut (before after : List Expr) : e.eval = .error (.divisionByZero offset) →
      e.nodes = before ++ .binary .div offset left right :: after →
      before.map operation? = applied.map some →
      left.eval = .ok x → right.eval = .ok y → y.isZero → Performs e applied

theorem Performs.map_of_ok {e : Expr} (h : e.Performs applied) (he : e.eval = .ok x) :
    e.nodes.map operation? = applied.map some := by
  cases h with
  | all _ hn => exact hn
  | cut _ _ he' => cases he.symm.trans he'

/-- What a part that fails performs, the whole does after the nodes in front of it. -/
theorem Performs.of_error {e whole : Expr} (h : e.Performs applied) (he : e.eval = .error r)
    (hw : whole.eval = .error r) (hn : whole.nodes = front ++ e.nodes ++ back)
    (hf : front.map operation? = first.map some) : whole.Performs (first ++ applied) := by
  cases h with
  | all he' => cases he.symm.trans he'
  | cut before after he' hb hm hx hy hz =>
    cases he.symm.trans he'
    refine .cut (front ++ before) (after ++ back) hw ?_ ?_ hx hy hz
    · simp only [hn, hb, List.append_assoc, List.cons_append]
    · rw [List.map_append, List.map_append, hf, hm]

theorem performs_applications (e : Expr) : e.Performs e.applications := by
  induction e with
  | number x offset => exact .all rfl rfl
  | group opening body closing ih =>
    cases ih with
    | all he hn => exact .all he hn
    | cut before after he hn hm hx hy hz => exact .cut before after he hn hm hx hy hz
  | binary op offset left right ihl ihr =>
    have h := binaryResult op offset left right
    generalize (binary op offset left right).applications = applied at h ⊢
    generalize he : (binary op offset left right).eval = result at h
    cases h with
    | left hl =>
      have hn : (binary op offset left right).nodes =
        [] ++ left.nodes ++ (right.nodes ++ [.binary op offset left right]) := List.append_assoc ..
      exact ihl.of_error hl he hn (List.map_nil.trans List.map_nil.symm)
    | right hl hr => exact ihr.of_error hr he rfl (ihl.map_of_ok hl)
    | divisionByZero hl hr hv =>
      obtain ⟨rfl, hz⟩ := Operator.value?_eq_none_iff.1 hv
      refine .cut _ [] he rfl ?_ hl hr hz
      rw [List.map_append, List.map_append, ihl.map_of_ok hl, ihr.map_of_ok hr]
    | @value x y z hl hr hv =>
      have hlast : (binary op offset left right).operation? = some ⟨op, x, y, z⟩ := by
        simp only [operation?, hl, hr, hv, Option.map_some]
      refine .all he ?_
      simp only [nodes, List.map_append, ihl.map_of_ok hl, ihr.map_of_ok hr, List.map_cons,
        List.map_nil, hlast]

theorem executes_code (e : Expr) (values : List Binary64) :
    Executes values e.code e.applications (e.eval >>= fun x => .ok (x :: values)) := by
  induction e generalizing values with
  | number x offset => exact .push .nil
  | group opening body closing ih => exact ih values
  | binary op offset left right ihl ihr =>
    have hleft := ihl values
    have h := binaryResult op offset left right
    generalize (binary op offset left right).applications = applied at h ⊢
    generalize (binary op offset left right).eval = result at h ⊢
    cases h with
    | left hl =>
      rw [hl] at hleft
      rw [code, List.append_assoc]
      exact hleft.append_error _
    | @right x e hl hr =>
      have hright := ihr (x :: values)
      rw [hl] at hleft
      rw [hr] at hright
      exact (hleft.append hright).append_error _
    | @divisionByZero x y hl hr hv =>
      have hright := ihr (x :: values)
      have hstop : Executes (y :: x :: values) [.apply op offset] []
        (.error (.divisionByZero offset)) := .divisionByZero hv
      rw [hl] at hleft
      rw [hr] at hright
      have hall := (hleft.append hright).append hstop
      rw [List.append_nil] at hall
      exact hall
    | @value x y z hl hr hv =>
      have hright := ihr (x :: values)
      rw [hl] at hleft
      rw [hr] at hright
      exact (hleft.append hright).append (.apply hv .nil)

theorem executes_tokens {e : Expr} (h : e.Is .sum) :
    Executes [] (translate [] e.tokens).code e.applications (e.eval >>= fun x => .ok [x]) := by
  have ht : translate [] (e.tokens ++ []) = (translate [] []).emit e.code :=
    translate_tokens h.fits trivial trivial
  rw [List.append_nil] at ht
  rw [ht, Translation.emit, code_translate_nil]
  exact (List.append_nil e.code).symm ▸ e.executes_code []

end Expr

end Calculator
