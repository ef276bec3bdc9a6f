import Mathlib.Tactic
/-!
# Schema statements

A database as its schema, the rows of each table and a version number, and the
statements that change a schema. A statement is allowed or it fails and changes
nothing; `After` is a script run statement by statement, `transaction` all or
nothing.
-/

namespace Boxplot.Lib.Sql

/-! ## Databases -/

inductive Value
  | null
  | integer (n : Int)
  | text (s : String)
  deriving DecidableEq, Repr

/-- SQL's `=`: `NULL` equals nothing. -/
def Value.eq (a b : Value) : Bool := a ≠ .null && a = b

structure Row where
  rowid : Int
  cell : String → Value

abbrev Rows := String → List Row

inductive Object
  | table (name : String) (columns primaryKey : List String)
  | index (name table : String) (columns : List String)
  | trigger (name table event : String)
  deriving DecidableEq, Repr

namespace Object

def name : Object → String
  | .table name _ _ => name
  | .index name _ _ => name
  | .trigger name _ _ => name

/-- The table an object belongs to. -/
def owner : Object → String
  | .table name _ _ => name
  | .index _ t _ => t
  | .trigger _ t _ => t

/-- Tables and indexes share their names; triggers have their own. -/
def isTrigger : Object → Bool
  | .trigger .. => true
  | _ => false

def isTable (t : String) : Object → Bool
  | .table name _ _ => name = t
  | _ => false

def primaryKey : Object → List String
  | .table _ _ primaryKey => primaryKey
  | _ => []

theorem owner_of_isTable {t : String} {o : Object} (h : o.isTable t = true) : o.owner = t ∧ o.isTrigger = false := by
  cases o with
  | table name _ _ => exact ⟨of_decide_eq_true h, rfl⟩
  | _ => cases h

end Object

structure Db where
  objects : List Object
  rows : Rows
  version : Nat

def HasTable (objects : List Object) (t : String) : Prop := objects.any (Object.isTable t) = true

instance (objects : List Object) (t : String) : Decidable (HasTable objects t) := inferInstanceAs (Decidable (_ = true))

/-- What a database keeps of its rows: row ids are unique, and so are primary keys. -/
def Keyed (db : Db) : Prop :=
  ∀ t, ∀ o ∈ db.objects, o.isTable t = true →
    ((db.rows t).map (·.rowid)).Nodup ∧ (o.primaryKey ≠ [] → ((db.rows t).map fun r => o.primaryKey.map r.cell).Nodup)

/-! ## Statements -/

inductive Statement
  | createTable (name : String) (columns primaryKey : List String)
  | createIndex (name table : String) (columns : List String)
  | createTrigger (name table event : String)
  | dropTable (name : String)
  | insertSelect (table : String) (query : Rows → List Row)
  | setVersion (version : Nat)

namespace Statement

/-- The schema lets the statement run. `dropTable` is `DROP TABLE IF EXISTS`. -/
def Defined (objects : List Object) : Statement → Prop
  | .createTable name _ _ => ∀ o ∈ objects, o.isTrigger = false → o.name ≠ name
  | .createIndex name table _ => HasTable objects table ∧ ∀ o ∈ objects, o.isTrigger = false → o.name ≠ name
  | .createTrigger name table _ => HasTable objects table ∧ ∀ o ∈ objects, o.isTrigger = true → o.name ≠ name
  | .dropTable _ => True
  | .insertSelect table _ => HasTable objects table
  | .setVersion _ => True

instance (objects : List Object) : (s : Statement) → Decidable (s.Defined objects)
  | .createTable _ _ _ => inferInstanceAs (Decidable (∀ o ∈ objects, _))
  | .createIndex _ _ _ => inferInstanceAs (Decidable (_ ∧ ∀ o ∈ objects, _))
  | .createTrigger _ _ _ => inferInstanceAs (Decidable (_ ∧ ∀ o ∈ objects, _))
  | .dropTable _ => inferInstanceAs (Decidable True)
  | .insertSelect _ _ => inferInstanceAs (Decidable (_ = true))
  | .setVersion _ => inferInstanceAs (Decidable True)

/-- The rows let the statement run: inserted row ids are new. -/
def Fits (rows : Rows) : Statement → Prop
  | .insertSelect table query => ((rows table ++ query rows).map (·.rowid)).Nodup
  | _ => True

instance (rows : Rows) : (s : Statement) → Decidable (s.Fits rows)
  | .insertSelect _ _ => inferInstanceAs (Decidable (List.Nodup _))
  | .createTable _ _ _ | .createIndex _ _ _ | .createTrigger _ _ _ | .dropTable _ | .setVersion _ =>
    inferInstanceAs (Decidable True)

def objectsAfter (objects : List Object) : Statement → List Object
  | .createTable name columns primaryKey => objects ++ [.table name columns primaryKey]
  | .createIndex name table columns => objects ++ [.index name table columns]
  | .createTrigger name table event => objects ++ [.trigger name table event]
  | .dropTable name => objects.filter (·.owner ≠ name)
  | _ => objects

def rowsAfter (rows : Rows) : Statement → Rows
  | .createTable name _ _ => Function.update rows name []
  | .dropTable name => Function.update rows name []
  | .insertSelect table query => Function.update rows table (rows table ++ query rows)
  | _ => rows

def versionAfter (version : Nat) : Statement → Nat
  | .setVersion v => v
  | _ => version

def Allowed (db : Db) (s : Statement) : Prop := s.Defined db.objects ∧ s.Fits db.rows

instance (db : Db) (s : Statement) : Decidable (s.Allowed db) := inferInstanceAs (Decidable (_ ∧ _))

def apply (db : Db) (s : Statement) : Db := ⟨s.objectsAfter db.objects, s.rowsAfter db.rows, s.versionAfter db.version⟩

end Statement

/-- One statement, committed by itself. -/
def Db.execute (db : Db) (s : Statement) : Except Unit Unit × Db :=
  if s.Allowed db then (.ok (), s.apply db) else (.error (), db)

/-- Statement after statement, as far as they are allowed. -/
def Db.runAll : Db → List Statement → Option Db
  | db, [] => some db
  | db, s :: rest => if s.Allowed db then (s.apply db).runAll rest else none

/-- A transaction: every statement, or none. -/
def Db.transaction (db : Db) (l : List Statement) : Except Unit Unit × Db :=
  match db.runAll l with
  | some db' => (.ok (), db')
  | none => (.error (), db)

/-! ## Scripts -/

/-- A script leads from one database to another, and every database on the way satisfies `P`. -/
inductive Through (P : Db → Prop) : List Statement → Db → Db → Prop
  | nil {db} : P db → Through P [] db db
  | cons {s rest db db'} : P db → s.Allowed db → Through P rest (s.apply db) db' → Through P (s :: rest) db db'

variable {P : Db → Prop} {l l' : List Statement} {db db' db'' : Db}

theorem Through.append (h : Through P l db db') (h' : Through P l' db' db'') : Through P (l ++ l') db db'' := by
  induction h with
  | nil _ => exact h'
  | cons hP ha _ ih => exact .cons hP ha (ih h')

theorem Through.start (h : Through P l db db') : P db := by
  cases h with
  | nil h => exact h
  | cons h _ _ => exact h

theorem Through.last (h : Through P l db db') : P db' := by
  induction h with
  | nil h => exact h
  | cons _ _ _ ih => exact ih

theorem Through.mono {Q : Db → Prop} (hQ : ∀ db, Q db → P db) (h : Through Q l db db') : Through P l db db' := by
  induction h with
  | nil h => exact .nil (hQ _ h)
  | cons h ha _ ih => exact .cons (hQ _ h) ha ih

theorem Through.runAll (h : Through P l db db') : db.runAll l = some db' := by
  induction h with
  | nil _ => rfl
  | cons _ ha _ ih => rw [Db.runAll, if_pos ha, ih]

/-! ### The parts of a script -/

def DefinedAll : List Object → List Statement → Prop
  | _, [] => True
  | objects, s :: rest => s.Defined objects ∧ DefinedAll (s.objectsAfter objects) rest

instance decidableDefinedAll : (objects : List Object) → (l : List Statement) → Decidable (DefinedAll objects l)
  | _, [] => inferInstanceAs (Decidable True)
  | objects, s :: rest =>
    have := decidableDefinedAll (s.objectsAfter objects) rest
    inferInstanceAs (Decidable (_ ∧ _))

def FitsAll : Rows → List Statement → Prop
  | _, [] => True
  | rows, s :: rest => s.Fits rows ∧ FitsAll (s.rowsAfter rows) rest

/-- The database after all of a script. -/
def Db.after (db : Db) (l : List Statement) : Db := l.foldl Statement.apply db

/-- A script that is allowed, where `P` is kept by each of its statements. -/
theorem Through.of_kept (hP : P db) (hdefined : DefinedAll db.objects l) (hfits : FitsAll db.rows l)
    (hkept : ∀ s ∈ l, ∀ db, P db → P (s.apply db)) : Through P l db (db.after l) := by
  induction l generalizing db with
  | nil => exact .nil hP
  | cons s rest ih =>
    refine .cons hP ⟨hdefined.1, hfits.1⟩ (ih (hkept s List.mem_cons_self db hP) hdefined.2 hfits.2 ?_)
    exact fun s' hs => hkept s' (List.mem_cons_of_mem _ hs)

theorem Db.after_objects (db : Db) (l : List Statement) : (db.after l).objects = l.foldl Statement.objectsAfter db.objects := by
  induction l generalizing db with
  | nil => rfl
  | cons s rest ih => exact ih (s.apply db)

theorem Db.after_version (db : Db) (l : List Statement) : (db.after l).version = l.foldl Statement.versionAfter db.version := by
  induction l generalizing db with
  | nil => rfl
  | cons s rest ih => exact ih (s.apply db)

theorem Db.after_rows (db : Db) (l : List Statement) : (db.after l).rows = l.foldl Statement.rowsAfter db.rows := by
  induction l generalizing db with
  | nil => rfl
  | cons s rest ih => exact ih (s.apply db)

/-- A statement that neither drops a table nor sets the version. -/
def Statement.IsAddition : Statement → Bool
  | .dropTable _ => false
  | .setVersion _ => false
  | _ => true

theorem hasTable_apply {s : Statement} (hs : s.IsAddition = true) {t : String} (h : HasTable db.objects t) :
    HasTable (s.apply db).objects t := by
  unfold HasTable at *
  cases s <;> simp_all [Statement.apply, Statement.objectsAfter, Statement.IsAddition]

theorem version_apply {s : Statement} (hs : s.IsAddition = true) : (s.apply db).version = db.version := by
  cases s <;> first | rfl | cases hs

/-- The tables whose rows a statement changes. -/
def Statement.target : Statement → Option String
  | .createTable name _ _ => some name
  | .dropTable name => some name
  | .insertSelect table _ => some table
  | _ => none

theorem rowsAfter_of_ne {s : Statement} {rows : Rows} {t : String} (h : s.target ≠ some t) : s.rowsAfter rows t = rows t := by
  cases s <;> first | rfl | exact Function.update_of_ne (fun he => h (congrArg some he.symm)) _ _

theorem foldl_rowsAfter_of_ne {rows : Rows} {t : String} (h : ∀ s ∈ l, s.target ≠ some t) :
    l.foldl Statement.rowsAfter rows t = rows t := by
  induction l generalizing rows with
  | nil => rfl
  | cons s rest ih =>
    rw [List.foldl_cons, ih fun s' hs => h s' (List.mem_cons_of_mem _ hs), rowsAfter_of_ne (h s List.mem_cons_self)]

/-- A script that starts with `first` and ends by setting the version, with `Q` in between. -/
theorem Through.script {Q : Db → Prop} {first : Statement} {middle : List Statement} {v : Nat} (hP : P db)
    (hdefined : DefinedAll db.objects (first :: middle)) (hfits : FitsAll db.rows (first :: middle)) (hfirst : Q (first.apply db))
    (hkept : ∀ s ∈ middle, ∀ db, Q db → Q (s.apply db)) (hQ : ∀ db, Q db → P db)
    (hend : P (db.after (first :: middle ++ [.setVersion v]))) :
    Through P (first :: middle ++ [.setVersion v]) db (db.after (first :: middle ++ [.setVersion v])) := by
  have hmiddle : Through Q middle (first.apply db) ((first.apply db).after middle) := .of_kept hfirst hdefined.2 hfits.2 hkept
  have hQend : Q ((first.apply db).after middle) := hmiddle.last
  have hlast : db.after (first :: middle ++ [.setVersion v]) = Statement.apply ((first.apply db).after middle) (.setVersion v) := by
    simp [Db.after]
  have hversion : (Statement.setVersion v).Allowed ((first.apply db).after middle) := ⟨trivial, trivial⟩
  rw [hlast] at hend ⊢
  exact .cons hP ⟨hdefined.1, hfits.1⟩ ((hmiddle.mono hQ).append (.cons (hQ _ hQend) hversion (.nil hend)))

/-- Only an insertion needs its rows to fit. -/
def Statement.IsInsert : Statement → Bool
  | .insertSelect .. => true
  | _ => false

theorem fitsAll_of_no_insert {rows : Rows} (h : ∀ s ∈ l, s.IsInsert = false) : FitsAll rows l := by
  induction l generalizing rows with
  | nil => trivial
  | cons s rest ih =>
    refine ⟨?_, ih fun s' hs => h s' (List.mem_cons_of_mem _ hs)⟩
    have hs := h s List.mem_cons_self
    cases s <;> trivial

/-- A table that a script without insertions makes anew, or that was empty, is empty after it. -/
theorem foldl_rowsAfter_nil {rows : Rows} {t : String} (hl : ∀ s ∈ l, s.IsInsert = false)
    (ht : rows t = [] ∨ some t ∈ l.map Statement.target) : l.foldl Statement.rowsAfter rows t = [] := by
  induction l generalizing rows with
  | nil => simpa using ht
  | cons s rest ih =>
    refine ih (fun s' hs => hl s' (List.mem_cons_of_mem _ hs)) ?_
    have hs := hl s List.mem_cons_self
    by_cases htarget : s.target = some t
    · left
      cases s with
      | createTable name _ _ => cases htarget; exact Function.update_self _ _ _
      | dropTable name => cases htarget; exact Function.update_self _ _ _
      | insertSelect _ _ => cases hs
      | _ => cases htarget
    · rcases ht with ht | ht
      · exact .inl ((rowsAfter_of_ne htarget).trans ht)
      · rcases List.mem_cons.1 ht with ht | ht
        · exact absurd ht.symm htarget
        · exact .inr ht

end Boxplot.Lib.Sql
