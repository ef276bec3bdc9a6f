import Boxplot.Lib.JsValue
/-!
# Values on a JSON wire

How `serde` names what it writes and reads, as its attributes are documented,
and how a typed JavaScript reader looks at what `JSON.parse` makes of it. A
wire value is a `JsValue`: numbers have already become doubles.
-/

namespace Boxplot.Lib

/-! ## Names -/

/-- The rules of `rename_all` that are used. -/
inductive RenameRule
  | asIs
  | camelCase
  deriving DecidableEq, Repr

/-- The words of a snake case name, each with a capital. -/
@[simp] def pascalCase : Bool → List Char → List Char
  | _, [] => []
  | capital, c :: rest =>
    if c = '_' then pascalCase true rest
    else (if capital then c.toUpper else c) :: pascalCase false rest

@[simp] def lowerFirst : List Char → List Char
  | [] => []
  | c :: rest => c.toLower :: rest

/-- What a rule makes of a field of a struct. -/
@[simp] def RenameRule.field : RenameRule → String → String
  | .asIs, name => name
  | .camelCase, name => String.ofList (lowerFirst (pascalCase true name.toList))

/-- What a rule makes of a variant of an enum. -/
@[simp] def RenameRule.variant : RenameRule → String → String
  | .asIs, name => name
  | .camelCase, name => String.ofList (lowerFirst name.toList)

/-! ## Numbers -/

/-- The double nearest to a natural number, the even one of two. -/
def doubleOf (n : Nat) : Nat :=
  if n < 2 ^ 53 then n
  else
    let unit := 2 ^ (n.log2 - 52)
    let below := n / unit
    let up := unit < 2 * (n % unit) || 2 * (n % unit) = unit && below % 2 = 1
    (if up then below + 1 else below) * unit

/-- A double is exactly this number. -/
def IsDouble (n : Nat) : Prop := doubleOf n = n

instance (n : Nat) : Decidable (IsDouble n) := inferInstanceAs (Decidable (_ = _))

theorem doubleOf_of_lt {n : Nat} (h : n < 2 ^ 53) : doubleOf n = n := if_pos h

example : doubleOf (2 ^ 53 + 1) = 2 ^ 53 ∧ doubleOf (2 ^ 53 + 3) = 2 ^ 53 + 4 ∧ doubleOf (2 ^ 64 - 1) = 2 ^ 64 := by decide +kernel

/-! ## Writing -/

namespace JsValue

/-- A number as it is after `JSON.parse`. -/
def nat (n : Nat) : JsValue := .num (doubleOf n)

def u16 (n : UInt16) : JsValue := .nat n.toNat
def u32 (n : UInt32) : JsValue := .nat n.toNat
def u64 (n : UInt64) : JsValue := .nat n.toNat

/-- A number in a document that Rust both writes and reads. -/
def integer (n : UInt64) : JsValue := .num n.toNat

/-- `None` as `null`. -/
def option {α : Type} (write : α → JsValue) : Option α → JsValue
  | none => .null
  | some a => write a

def vec {α : Type} (write : α → JsValue) (items : List α) : JsValue := .arr (items.map write)

end JsValue

/-- A field that is written, or one that `skip_serializing_if` leaves out. -/
abbrev WireField := String × Option JsValue

@[simp] def field (name : String) (value : JsValue) : WireField := (name, some value)

@[simp] def unlessNone {α : Type} (name : String) (write : α → JsValue) (value : Option α) : WireField := (name, value.map write)

@[simp] def presentFields (fields : List WireField) : List (String × JsValue) :=
  fields.filterMap fun f => f.2.map (f.1, ·)

/-- A struct: every field under its renamed name. -/
@[simp] def serializeStruct (rule : RenameRule) (fields : List WireField) : JsValue :=
  .obj (presentFields (fields.map fun f => (rule.field f.1, f.2)))

/-- A variant of an enum with a `tag`: the rule renames the variant, and not its fields. -/
@[simp] def serializeTagged (tag : String) (rule : RenameRule) (variant : String) (fields : List WireField) : JsValue :=
  .obj ((tag, .str (rule.variant variant)) :: presentFields fields)

/-- A variant without fields of an enum without a `tag`. -/
@[simp] def serializeUnit (rule : RenameRule) (variant : String) : JsValue := .str (rule.variant variant)

/-! ## Reading -/

/-- A property that may be missing, read as an `α`. -/
abbrev Reader (α : Type) := Option JsValue → Option α

namespace Reader

variable {α : Type}

def string : Reader String
  | some (.str s) => some s
  | _ => none

def boolean : Reader Bool
  | some (.bool b) => some b
  | _ => none

/-- A number that is a natural number. -/
def number : Reader Nat
  | some (.num q) => if q.den = 1 ∧ 0 ≤ q.num then some q.num.toNat else none
  | _ => none

/-- A natural number below a bound, as the integer type of that size. -/
def uint (bound : Nat) (ofNat : Nat → α) : Reader α := fun v =>
  (number v).bind fun n => if n < bound then some (ofNat n) else none

def u16 : Reader UInt16 := uint (2 ^ 16) UInt16.ofNat
def u32 : Reader UInt32 := uint (2 ^ 32) UInt32.ofNat
def u64 : Reader UInt64 := uint (2 ^ 64) UInt64.ofNat

/-- `T | null`. -/
def nullable (read : Reader α) : Reader (Option α)
  | some .null => some none
  | v => (read v).map some

/-- A property that may be missing. -/
def absentOr (read : Reader α) : Reader (Option α)
  | none => some none
  | v => (read v).map some

/-- A property that may be missing or `null`. -/
def optional (read : Reader α) : Reader (Option α)
  | none => some none
  | v => nullable read v

def array (read : Reader α) : Reader (List α)
  | some (.arr items) => items.mapM fun item => read (some item)
  | _ => none

end Reader

/-- The fields of an object with no other names than these, and all the required ones. -/
@[simp] def exactFields (required others : List String) : JsValue → Option (List (String × JsValue))
  | .obj fields =>
    if fields.all (fun f => f.1 ∈ required ++ others) && required.all (fun name => (fields.lookup name).isSome) then some fields
    else none
  | _ => none

/-- The fields a derived `Deserialize` looks at, by their renamed names. Unknown ones are an error only if denied. -/
@[simp] def deserializeStruct (rule : RenameRule) (denyUnknown : Bool) (names : List String) :
    JsValue → Option (String → Option JsValue)
  | .obj fields =>
    if denyUnknown && !fields.all (fun f => f.1 ∈ names.map rule.field) then none
    else some fun name => fields.lookup (rule.field name)
  | _ => none

/-- The variant an enum with a `tag` reads, and its fields, which the rule does not rename. -/
@[simp] def deserializeTagged (tag : String) (rule : RenameRule) (variants : List String) :
    JsValue → Option (String × (String → Option JsValue))
  | .obj fields =>
    match fields.lookup tag with
    | some (.str kind) =>
      (variants.find? fun variant => rule.variant variant = kind).map fun variant => (variant, (List.lookup · fields))
    | _ => none
  | _ => none

/-- The same with unknown fields denied: each variant has its own fields. -/
@[simp] def deserializeTaggedExact (tag : String) (rule : RenameRule) (variants : List (String × List String)) :
    JsValue → Option (String × (String → Option JsValue))
  | .obj fields =>
    match fields.lookup tag with
    | some (.str kind) =>
      (variants.find? fun variant => rule.variant variant.1 = kind).bind fun variant =>
        if fields.all (fun f => f.1 ∈ tag :: variant.2) then some (variant.1, (List.lookup · fields)) else none
    | _ => none
  | _ => none

/-- The variant that is named, of an enum without a `tag` whose variants have no fields. -/
@[simp] def deserializeUnit (rule : RenameRule) (variants : List String) : JsValue → Option String
  | .str kind => variants.find? fun variant => rule.variant variant = kind
  | _ => none

/-! ## What is read of what is written -/

section
variable {α : Type}

@[simp] theorem number_nat (n : Nat) : Reader.number (some (.nat n)) = some (doubleOf n) := by
  simp [Reader.number, JsValue.nat]

@[simp] theorem string_str (s : String) : Reader.string (some (.str s)) = some s := rfl

@[simp] theorem boolean_bool (b : Bool) : Reader.boolean (some (.bool b)) = some b := rfl

/-- A reader that gives back what was written. -/
def Reads (read : Reader α) (write : α → JsValue) (a : α) : Prop := read (some (write a)) = some a

@[simp] theorem reads_u16 (n : UInt16) : Reader.u16 (some (.u16 n)) = some n := by
  have hd : doubleOf n.toNat = n.toNat := doubleOf_of_lt (n.toNat_lt.trans (by norm_num))
  simp [Reader.u16, JsValue.u16, Reader.uint, hd, n.toNat_lt]

@[simp] theorem reads_u32 (n : UInt32) : Reader.u32 (some (.u32 n)) = some n := by
  have hd : doubleOf n.toNat = n.toNat := doubleOf_of_lt (n.toNat_lt.trans (by norm_num))
  simp [Reader.u32, JsValue.u32, Reader.uint, hd, n.toNat_lt]

/-- A large number is read back if it is a double. -/
theorem reads_u64 (n : UInt64) : Reader.u64 (some (.u64 n)) = some n ↔ IsDouble n.toNat := by
  simp only [Reader.u64, JsValue.u64, Reader.uint, number_nat, Option.bind_some, Option.ite_none_right_eq_some,
    Option.some.injEq, IsDouble]
  constructor
  · rintro ⟨h, hread⟩
    rw [← UInt64.toNat_ofNat_of_lt' h, hread]
  · intro h
    rw [h]
    exact ⟨n.toNat_lt, UInt64.ofNat_toNat⟩

/-- A number that no double stands between is read back. -/
@[simp] theorem reads_integer (n : UInt64) : Reader.u64 (some (.integer n)) = some n := by
  simp [Reader.u64, JsValue.integer, Reader.uint, Reader.number, n.toNat_lt]

theorem reads_nullable {read : Reader α} {write : α → JsValue} (hnull : ∀ a, write a ≠ .null) {value : Option α} :
    Reads (Reader.nullable read) (JsValue.option write) value ↔ ∀ a ∈ value, Reads read write a := by
  cases value with
  | none => simp [Reads, Reader.nullable, JsValue.option]
  | some a =>
    have hread : Reader.nullable read (some (write a)) = (read (some (write a))).map some := by
      unfold Reader.nullable
      split
      · rename_i h
        exact absurd (Option.some.inj h) (hnull a)
      · rfl
    simp [Reads, JsValue.option, hread]

theorem reads_array {read : Reader α} {write : α → JsValue} {items : List α} :
    Reads (Reader.array read) (JsValue.vec write) items ↔ ∀ a ∈ items, Reads read write a := by
  unfold Reads
  simp only [Reader.array, JsValue.vec]
  induction items with
  | nil => simp
  | cons a rest ih =>
    simp only [List.map_cons, List.mapM_cons, List.forall_mem_cons]
    cases ha : read (some (write a)) with
    | none => simp
    | some b =>
      rw [← ih]
      cases hrest : (rest.map write).mapM fun item => read (some item) with
      | none => simp
      | some l => simp

/-- One property read, before the rest is looked at. -/
theorem bind_reads {β : Type} {read : Reader α} {v : Option JsValue} {a : α} (h : read v = some a) (f : α → Option β) :
    (read v >>= f) = f a := by
  rw [h]
  rfl

/-- Exactly the required fields, in their order. -/
theorem exactFields_required {required : List String} {fields : List (String × JsValue)} (h : fields.map (·.1) = required) :
    exactFields required [] (.obj fields) = some fields := by
  subst h
  refine if_pos ?_
  simp only [List.append_nil, Bool.and_eq_true, List.all_eq_true, decide_eq_true_eq]
  refine ⟨fun f hf => List.mem_map_of_mem hf, fun name hname => ?_⟩
  obtain ⟨f, hf, rfl⟩ := List.mem_map.1 hname
  cases hl : fields.lookup f.1 with
  | some v => rfl
  | none =>
    rw [List.lookup_eq_none_iff] at hl
    simpa using hl f hf

/-- Looking up every key of distinct ones gives the values. -/
theorem lookup_keys {fields : List (String × JsValue)} (h : (fields.map (·.1)).Nodup) :
    (fields.map (·.1)).map (List.lookup · fields) = fields.map fun f => some f.2 := by
  rw [List.map_map]
  refine List.map_congr_left fun f hf => ?_
  induction fields with
  | nil => cases hf
  | cons g rest ih =>
    simp only [List.map_cons, List.nodup_cons] at h
    rcases List.mem_cons.1 hf with rfl | hm
    · exact List.lookup_cons_self
    · have hne : f.1 ≠ g.1 := fun he => h.1 (he ▸ List.mem_map_of_mem hm)
      have hbeq : (f.1 == g.1) = false := by simpa using hne
      rw [Function.comp_apply, List.lookup_cons, hbeq]
      exact ih h.2 hm

@[simp] theorem nullable_string (value : Option String) :
    Reader.nullable .string (some (.option .str value)) = some value := by
  cases value <;> rfl

@[simp] theorem optional_string (value : Option String) :
    Reader.optional .string (some (.option .str value)) = some value := by
  cases value <;> rfl

@[simp] theorem array_string (items : List String) : Reader.array .string (some (.vec .str items)) = some items :=
  reads_array.2 fun _ _ => rfl

end

end Boxplot.Lib
