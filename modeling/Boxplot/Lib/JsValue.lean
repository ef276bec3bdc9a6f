import Mathlib.Tactic
/-!
# JavaScript values read from JSON

Parsed JSON and `undefined`, with what reading a property of a value gives: its
own property, one it inherits, `undefined`, or a `TypeError`. Which names a
prototype provides, and how a value is written as a property key, is the
engine's.
-/

namespace Boxplot.Lib

/-- An object lists each of its own keys once. `builtin` is what a prototype provides: a function or an object. -/
inductive JsValue
  | undefined
  | null
  | bool (value : Bool)
  | num (value : Rat)
  | str (value : String)
  | arr (items : List JsValue)
  | obj (fields : List (String × JsValue))
  | builtin

inductive JsKind
  | bool | num | str | arr | obj | builtin
  deriving DecidableEq, Repr

structure Engine where
  inherits : JsKind → String → Bool
  toKey : JsValue → String

namespace JsValue

def truthy : JsValue → Bool
  | .undefined => false
  | .null => false
  | .bool b => b
  | .num q => q ≠ 0
  | .str s => s ≠ ""
  | _ => true

def inherited (e : Engine) (kind : JsKind) (key : String) : JsValue := if e.inherits kind key then .builtin else .undefined

/-- The array index a property key stands for: a number in its usual digits. -/
def index (key : String) : Option Nat :=
  let n := key.toList.foldl (fun n c => 10 * n + (c.toNat - 48)) 0
  if key.toList.all Char.isDigit && toString n = key then some n else none

def utf16Length (s : String) : Nat := (s.toList.map fun c => if c.toNat < 0x10000 then 1 else 2).sum

/-- `value[key]`, or the message of its `TypeError`. -/
def get (e : Engine) (value : JsValue) (key : String) : Except String JsValue :=
  match value with
  | .undefined => .error ("Cannot read properties of undefined (reading '" ++ key ++ "')")
  | .null => .error ("Cannot read properties of null (reading '" ++ key ++ "')")
  | .bool _ => .ok (inherited e .bool key)
  | .num _ => .ok (inherited e .num key)
  | .builtin => .ok (inherited e .builtin key)
  | .str s =>
    if key = "length" then .ok (.num (utf16Length s))
    else match (index key).bind (fun i => s.toList[i]?) with
      | some c => .ok (.str (String.singleton c))
      | none => .ok (inherited e .str key)
  | .arr items =>
    if key = "length" then .ok (.num items.length)
    else match (index key).bind (fun i => items[i]?) with
      | some v => .ok v
      | none => .ok (inherited e .arr key)
  | .obj fields =>
    match fields.lookup key with
    | some v => .ok v
    | none => .ok (inherited e .obj key)

theorem index_one : index "1" = some 1 := by decide +kernel

theorem index_two : index "2" = some 2 := by decide +kernel

/-- `value?.[key]`. -/
def optGet (e : Engine) (value : JsValue) (key : String) : Except String JsValue :=
  match value with
  | .undefined => .ok .undefined
  | .null => .ok .undefined
  | v => v.get e key

/-- `value || other`. -/
def orElse (value other : JsValue) : JsValue := if value.truthy then value else other

/-- `value === text`. -/
def isText (text : String) : JsValue → Bool
  | .str s => s = text
  | _ => false

/-- A value used as a property key. -/
def key (e : Engine) : JsValue → String
  | .str s => s
  | v => e.toKey v

end JsValue

/-- `fields[key] = value` on a plain object. Assigning a primitive to `__proto__` does nothing. -/
def assign (fields : List (String × JsValue)) (key : String) (value : JsValue) : List (String × JsValue) :=
  if key = "__proto__" then fields
  else match fields with
    | [] => [(key, value)]
    | (k, v) :: rest => if k = key then (key, value) :: rest else (k, v) :: assign rest key value

/-! ## Assignment -/

variable {fields : List (String × JsValue)} {key : String} {value : JsValue} {field : String × JsValue}

theorem assign_proto (fields : List (String × JsValue)) (value : JsValue) : assign fields "__proto__" value = fields := by
  unfold assign
  rfl

theorem assign_cons (h : key ≠ "__proto__") (k : String) (v : JsValue) (rest : List (String × JsValue)) :
    assign ((k, v) :: rest) key value = if k = key then (key, value) :: rest else (k, v) :: assign rest key value := by
  rw [assign, if_neg h]

theorem assign_nil (h : key ≠ "__proto__") : assign [] key value = [(key, value)] := by
  rw [assign, if_neg h]

theorem mem_assign_self (h : key ≠ "__proto__") : (key, value) ∈ assign fields key value := by
  induction fields with
  | nil => simp [assign_nil h]
  | cons f rest ih =>
    rw [assign_cons h]
    split
    · exact List.mem_cons_self
    · exact List.mem_cons_of_mem _ ih

theorem of_mem_assign (hf : field ∈ assign fields key value) : field = (key, value) ∨ field ∈ fields := by
  by_cases h : key = "__proto__"
  · rw [h, assign_proto] at hf; exact .inr hf
  · induction fields with
    | nil => rw [assign_nil h] at hf; exact .inl (List.mem_singleton.1 hf)
    | cons f rest ih =>
      rw [assign_cons h] at hf
      split at hf
      · exact (List.mem_cons.1 hf).imp_right (List.mem_cons_of_mem _)
      · rcases List.mem_cons.1 hf with rfl | hm
        · exact .inr List.mem_cons_self
        · exact (ih hm).imp_right (List.mem_cons_of_mem _)

theorem keys_assign (h : key ≠ "__proto__") :
    ((assign fields key value).map (·.1)).toFinset = insert key (fields.map (·.1)).toFinset := by
  induction fields with
  | nil => simp [assign_nil h]
  | cons f rest ih =>
    rw [assign_cons h]
    split
    · rename_i hk; simp [← hk]
    · simp only [List.map_cons, List.toFinset_cons, ih]
      exact Finset.insert_comm ..

end Boxplot.Lib
