import Boxplot.Domain.Cached
import Boxplot.Lib.CodeUnits
import Boxplot.Lib.LengthPrefixed
import Boxplot.Memory.SyncPort
/-!
# The keys of the memory engine's maps

`compoundKey` and the key functions of `src/adapters/memory/memory-state.ts`, on
strings of any code units. A key has the length of each part before it, so two
entities of one map never have the same key, and the maps under ids that
`MemoryState` has are the maps under keys that the source has.
-/

namespace Boxplot.Memory

open Lib

/-! ## Keys -/

def compoundKey (parts : List CodeUnits) : CodeUnits :=
  (parts.map fun part => units (toString part.length) ++ units ":" ++ part).flatten

/-- The id of a mailbox, an email or an identity: strings that the server chose. -/
structure ScopedId where
  accountKey : CodeUnits
  jmapId : CodeUnits
  deriving DecidableEq

def mailboxKey (id : ScopedId) : CodeUnits := compoundKey [id.accountKey, id.jmapId]

def emailKey (id : ScopedId) : CodeUnits := compoundKey [id.accountKey, id.jmapId]

def identityKey (id : ScopedId) : CodeUnits := compoundKey [id.accountKey, id.jmapId]

structure ViewSpec where
  mailboxId : ScopedId
  filterKind : CodeUnits
  sortProperty : CodeUnits
  sortDirection : CodeUnits
  deriving DecidableEq

def viewKey (spec : ViewSpec) : CodeUnits :=
  compoundKey [spec.mailboxId.accountKey, spec.mailboxId.jmapId, spec.filterKind, spec.sortProperty, spec.sortDirection]

def cursorKey (accountKey dataType : CodeUnits) : CodeUnits := compoundKey [accountKey, dataType]

def mutationKey (accountKey mutationId : CodeUnits) : CodeUnits := compoundKey [accountKey, mutationId]

/-! ## Different keys -/

theorem toString_units_injective {m n : Nat} (h : units (toString m) = units (toString n)) : m = n := by
  have htext := congrArg String.toList (units_injective h)
  rw [Nat.toString_eq_repr, Nat.toString_eq_repr, Nat.toList_repr, Nat.toList_repr] at htext
  rw [← @Nat.ofDigitChars_ten_toDigits m, htext, Nat.ofDigitChars_ten_toDigits]

theorem colon_notMem_units (n : Nat) : unit ':' ∉ units (toString n) := by
  intro hmem
  obtain ⟨c, hc, hunit⟩ := List.mem_flatMap.1 hmem
  rw [Nat.toString_eq_repr, Nat.toList_repr] at hc
  have hdigit := Nat.isDigit_of_mem_toDigits (by omega) (by omega) hc
  have hrange : 48 ≤ c.toNat ∧ c.toNat ≤ 57 := by
    simp only [Char.isDigit, Bool.and_eq_true, decide_eq_true_eq, UInt32.le_iff_toNat_le] at hdigit
    exact hdigit
  have hplane : c.toNat < 0x10000 := by omega
  rw [charUnits, if_pos hplane, List.mem_singleton] at hunit
  have hnat := congrArg UInt16.toNat hunit
  rw [unit_toNat hplane, unit_toNat (by decide)] at hnat
  have hcolon : ':'.toNat = 58 := rfl
  omega

/-- A length in decimal digits, and a colon. -/
def decimalLength : LengthCode UInt16 where
  digits n := units (toString n)
  separator := unit ':'
  injective := toString_units_injective
  apart := colon_notMem_units

theorem compoundKey_eq (parts : List CodeUnits) : compoundKey parts = decimalLength.joined parts := by
  unfold compoundKey LengthCode.joined
  congr 1
  refine List.map_congr_left fun part _ => ?_
  have hcolon : units ":" = [unit ':'] := by decide
  rw [hcolon, List.append_assoc]
  rfl

theorem compoundKey_injective : Function.Injective compoundKey := by
  intro parts parts' h
  rw [compoundKey_eq, compoundKey_eq] at h
  exact decimalLength.joined_injective h

theorem pair_injective : Function.Injective fun k : CodeUnits × CodeUnits => compoundKey [k.1, k.2] := by
  rintro ⟨a, b⟩ ⟨a', b'⟩ h
  have hparts := compoundKey_injective h
  simp only [List.cons.injEq, and_true] at hparts
  rw [hparts.1, hparts.2]

theorem scoped_injective : Function.Injective fun id : ScopedId => compoundKey [id.accountKey, id.jmapId] := by
  rintro ⟨a, b⟩ ⟨a', b'⟩ h
  have hpair := @pair_injective (a, b) (a', b') h
  rw [Prod.mk.injEq] at hpair
  rw [hpair.1, hpair.2]

theorem viewKey_injective : Function.Injective viewKey := by
  rintro ⟨⟨a, b⟩, c, d, e⟩ ⟨⟨a', b'⟩, c', d', e'⟩ h
  have hparts := compoundKey_injective h
  simp only [List.cons.injEq, and_true] at hparts
  obtain ⟨rfl, rfl, rfl, rfl, rfl⟩ := hparts
  rfl

/-- Keys of one map are made of lists of strings that differ where the entities do, so an entry is never another's. -/
theorem keys_distinct : Function.Injective compoundKey ∧
    Function.Injective mailboxKey ∧ Function.Injective emailKey ∧ Function.Injective identityKey ∧ Function.Injective viewKey ∧
    Function.Injective (fun k : CodeUnits × CodeUnits => cursorKey k.1 k.2) ∧
    Function.Injective (fun k : CodeUnits × CodeUnits => mutationKey k.1 k.2) ∧
    ∀ (V : Type) (map : OrderedMap CodeUnits V) (parts parts' : List CodeUnits) (value : V), parts ≠ parts' →
      (map.set (compoundKey parts) value).get? (compoundKey parts') = map.get? (compoundKey parts') := by
  refine ⟨compoundKey_injective, scoped_injective, scoped_injective, scoped_injective, viewKey_injective, pair_injective,
    pair_injective, fun V map parts parts' value hne => ?_⟩
  exact OrderedMap.get?_set_ne _ _ fun heq => hne (compoundKey_injective heq).symm

/-! ## The maps under keys -/

/-- An id whose strings are texts. -/
def scopedId (accountKey jmapId : String) : ScopedId := ⟨units accountKey, units jmapId⟩

theorem scopedId_inj {a b a' b' : String} (h : scopedId a b = scopedId a' b') : a = a' ∧ b = b' :=
  ⟨units_injective (congrArg ScopedId.accountKey h), units_injective (congrArg ScopedId.jmapId h)⟩

def dataTypeText : Domain.CollectionDataType → String
  | .email => "email"
  | .mailbox => "mailbox"
  | .identity => "identity"

theorem dataTypeText_injective : Function.Injective dataTypeText := by
  have hall : ∀ a ∈ [Domain.CollectionDataType.email, .mailbox, .identity], ∀ b ∈ [Domain.CollectionDataType.email, .mailbox, .identity],
      dataTypeText a = dataTypeText b → a = b := by decide
  have hmem (a : Domain.CollectionDataType) : a ∈ [Domain.CollectionDataType.email, .mailbox, .identity] := by cases a <;> decide
  exact fun a b h => hall a (hmem a) b (hmem b) h

def mailboxIdKey : Domain.ScopedMailboxId ↪ CodeUnits where
  toFun id := mailboxKey (scopedId id.accountKey id.jmapId)
  inj' := by
    rintro ⟨a, b⟩ ⟨a', b'⟩ h
    obtain ⟨rfl, rfl⟩ := scopedId_inj (scoped_injective h)
    rfl

def emailIdKey : Domain.ScopedEmailId ↪ CodeUnits where
  toFun id := emailKey (scopedId id.accountKey id.jmapId)
  inj' := by
    rintro ⟨a, b⟩ ⟨a', b'⟩ h
    obtain ⟨rfl, rfl⟩ := scopedId_inj (scoped_injective h)
    rfl

def identityIdKey : Domain.ScopedIdentityId ↪ CodeUnits where
  toFun id := identityKey (scopedId id.accountKey id.jmapId)
  inj' := by
    rintro ⟨a, b⟩ ⟨a', b'⟩ h
    obtain ⟨rfl, rfl⟩ := scopedId_inj (scoped_injective h)
    rfl

def cursorIdKey : Domain.AccountKey × Domain.CollectionDataType ↪ CodeUnits where
  toFun id := cursorKey (units id.1) (units (dataTypeText id.2))
  inj' := by
    rintro ⟨a, b⟩ ⟨a', b'⟩ h
    have hpair := @pair_injective (units a, units (dataTypeText b)) (units a', units (dataTypeText b')) h
    rw [Prod.mk.injEq] at hpair
    rw [units_injective hpair.1, dataTypeText_injective (units_injective hpair.2)]

def mutationIdKey : Domain.AccountKey × Domain.MutationId ↪ CodeUnits where
  toFun id := mutationKey (units id.1) (units id.2)
  inj' := by
    rintro ⟨a, b⟩ ⟨a', b'⟩ h
    have hpair := @pair_injective (units a, units b) (units a', units b') h
    rw [Prod.mk.injEq] at hpair
    rw [units_injective hpair.1, units_injective hpair.2]

/-- The maps as the source has them. -/
structure StoredMaps where
  mailboxes : OrderedMap CodeUnits Domain.Mailbox
  identities : OrderedMap CodeUnits Domain.Identity
  emails : OrderedMap CodeUnits Domain.Email
  memberships : OrderedMap CodeUnits (List Domain.EmailMailbox)
  cursors : OrderedMap CodeUnits Domain.CollectionSyncCursor
  mutations : OrderedMap CodeUnits Domain.PendingMutation

def MemoryState.stored (s : MemoryState) : StoredMaps where
  mailboxes := s.mailboxes.mapKeys mailboxIdKey
  identities := s.identities.mapKeys identityIdKey
  emails := s.emails.mapKeys emailIdKey
  memberships := s.memberships.mapKeys emailIdKey
  cursors := s.cursors.mapKeys cursorIdKey
  mutations := s.mutations.mapKeys mutationIdKey

/-- A write under an id is the write under its key, and no other map changes. -/
theorem stored_set (s : MemoryState) :
    (∀ id v, { s with mailboxes := s.mailboxes.set id v }.stored = { s.stored with mailboxes := s.stored.mailboxes.set (mailboxIdKey id) v }) ∧
    (∀ id v, { s with identities := s.identities.set id v }.stored =
      { s.stored with identities := s.stored.identities.set (identityIdKey id) v }) ∧
    (∀ id v, { s with emails := s.emails.set id v }.stored = { s.stored with emails := s.stored.emails.set (emailIdKey id) v }) ∧
    (∀ id v, { s with memberships := s.memberships.set id v }.stored =
      { s.stored with memberships := s.stored.memberships.set (emailIdKey id) v }) ∧
    (∀ id v, { s with cursors := s.cursors.set id v }.stored = { s.stored with cursors := s.stored.cursors.set (cursorIdKey id) v }) ∧
    ∀ id v, { s with mutations := s.mutations.set id v }.stored = { s.stored with mutations := s.stored.mutations.set (mutationIdKey id) v } := by
  simp [MemoryState.stored, OrderedMap.mapKeys_set]

/-- A read under a key finds what the read under its id finds. -/
theorem stored_get (s : MemoryState) :
    (∀ id, s.stored.mailboxes.get? (mailboxIdKey id) = s.mailboxes.get? id) ∧
    (∀ id, s.stored.identities.get? (identityIdKey id) = s.identities.get? id) ∧
    (∀ id, s.stored.emails.get? (emailIdKey id) = s.emails.get? id) ∧
    (∀ id, s.stored.memberships.get? (emailIdKey id) = s.memberships.get? id) ∧
    (∀ id, s.stored.cursors.get? (cursorIdKey id) = s.cursors.get? id) ∧
    ∀ id, s.stored.mutations.get? (mutationIdKey id) = s.mutations.get? id := by
  simp [MemoryState.stored]

/-- A delete too, where emails and mutations are dropped. -/
theorem stored_delete (s : MemoryState) :
    (∀ id, { s with emails := s.emails.delete id }.stored = { s.stored with emails := s.stored.emails.delete (emailIdKey id) }) ∧
    ∀ id, { s with mutations := s.mutations.delete id }.stored = { s.stored with mutations := s.stored.mutations.delete (mutationIdKey id) } := by
  simp [MemoryState.stored, OrderedMap.mapKeys_delete]

end Boxplot.Memory
