import Mathlib.Logic.Basic

/-!
# The `to_float` filter of the runner

`eval_to_float` converts a value of the runner to a float: a float passes through, an integer is
widened with `as f64`, and a string is parsed with `str::parse::<f64>`. Every other value, and a
string the parser refuses, fails with `FilterInvalidInput` carrying the value's `display()`, at the
filter's source position, with the filter's `assert` flag.

The value type, `Value::display`, the parser and the widening are not among the sources: the
floats are the type `F`, the values other than numbers and strings the type `O`, the source
position the type `S`, and `display`, `parse` and `ofInt` are parameters.
-/

namespace HurlHtml.Runner

/-- `Number`: a float (`f64`, the type `F`) or an integer (`i64`). -/
inductive Number (F : Type) where
  | float (v : F)
  | integer (v : Int)
  deriving DecidableEq, Repr

/-- `Value`: a number, a string, or one of the other values of the runner (the type `O`). -/
inductive Value (F O : Type) where
  | number (n : Number F)
  | string (s : String)
  | other (o : O)
  deriving DecidableEq, Repr

/-- The kind of `RunnerError` the filter raises. -/
inductive RunnerError where
  | filterInvalidInput (value : String)
  deriving DecidableEq, Repr

/-- `Error::new(source_info, inner, assert)`. -/
structure Error (S : Type) where
  sourceInfo : S
  inner : RunnerError
  assert : Bool
  deriving DecidableEq, Repr

section

variable {F O S : Type} (display : Value F O → String) (parse : String → Option F)
  (ofInt : Int → F)

/-- `eval_to_float`; `parse s = some f` is `s.parse::<f64>() = Ok(f)`, `ofInt v` is `v as f64`. -/
def evalToFloat (value : Value F O) (sourceInfo : S) (assert : Bool) :
    Except (Error S) (Option (Value F O)) :=
  match value with
  | .number (.float v) => .ok (some (.number (.float v)))
  | .number (.integer v) => .ok (some (.number (.float (ofInt v))))
  | .string v =>
    match parse v with
    | some f => .ok (some (.number (.float f)))
    | none =>
      let inner := .filterInvalidInput (display value)
      .error ⟨sourceInfo, inner, assert⟩
  | v =>
    let inner := .filterInvalidInput (display v)
    .error ⟨sourceInfo, inner, assert⟩

/-- The values `to_float` converts: the numbers, and the strings the parser accepts. -/
def Convertible : Value F O → Prop
  | .number _ => True
  | .string s => (parse s).isSome
  | .other _ => False

instance : DecidablePred (Convertible (O := O) parse)
  | .number _ => isTrue trivial
  | .string s => inferInstanceAs (Decidable ((parse s).isSome = true))
  | .other _ => isFalse id

variable {display parse ofInt} {value : Value F O} {sourceInfo : S} {assert : Bool}

/-- `to_float` is idempotent: applied to its own result, it gives that result back. -/
theorem evalToFloat_evalToFloat :
    (evalToFloat display parse ofInt value sourceInfo assert >>= fun r =>
        r.elim (.ok none) fun v => evalToFloat display parse ofInt v sourceInfo assert) =
      evalToFloat display parse ofInt value sourceInfo assert := by
  cases value with
  | number n => cases n <;> rfl
  | string s => cases h : parse s <;> simp [evalToFloat, h] <;> rfl
  | other o => rfl

end

end HurlHtml.Runner
