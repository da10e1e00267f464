import ShadowPanel.Data.Glob
import ShadowPanel.Data.Json
import Mathlib.Logic.Function.Basic

namespace ShadowPanel.Cache

open Data

/-! The cache drivers of `internal/cache`.  Times are seconds. -/

/-- How a text column compares its keys.  The collations that MySQL creates the
table with fold case and accents, and keep the plain letters apart. -/
structure Collation where
  fold : Char → Char
  letters : ∀ left right : Char, left.isLower = true → right.isLower = true →
    fold left = fold right → left = right

inductive Driver where
  | inMemory
  | redis
  | mysql (collation : Collation)
  | postgreSQL

namespace Driver

def redisKeyPrefix : String := "gameap:"

def databaseKeyPrefix : String := "cache:"

def buildKey : Driver → String → String
  | .inMemory, key => key
  | .redis, key => redisKeyPrefix ++ key
  | .mysql _, key => databaseKeyPrefix ++ key
  | .postgreSQL, key => databaseKeyPrefix ++ key

def fold : Driver → Char → Char
  | .mysql collation => collation.fold
  | _ => id

def slot (driver : Driver) (key : String) : List Char :=
  (driver.buildKey key).toList.map driver.fold

theorem slot_inj {driver : Driver} : driver.slot left = driver.slot right ↔
    left.toList.map driver.fold = right.toList.map driver.fold := by
  cases driver <;> simp [slot, buildKey]

theorem fold_letters (driver : Driver) (leftLetter : left.isLower = true)
    (rightLetter : right.isLower = true) (same : driver.fold left = driver.fold right) :
    left = right := by
  cases driver with
  | mysql collation => exact collation.letters left right leftLetter rightLetter same
  | _ => exact same

def Separates (driver : Driver) (digest : String → String) : Prop :=
  ∀ left right : String,
    (digest left).toList.map driver.fold = (digest right).toList.map driver.fold →
      digest left = digest right

theorem separates_inMemory (digest : String → String) : inMemory.Separates digest := by
  intro left right same
  exact String.toList_inj.mp (by simpa [fold] using same)

/-- `Get` of the SQL drivers deletes the expired entry it meets. -/
def dropsExpired : Driver → Bool
  | .mysql _ => true
  | .postgreSQL => true
  | _ => false

/-- The slots that `Clear` empties: Redis flushes its database, the SQL drivers
delete the rows that begin with their key prefix. -/
def clears : Driver → List Char → Bool
  | .inMemory, _ => true
  | .redis, _ => true
  | driver, slot => (databaseKeyPrefix.toList.map driver.fold).isPrefixOf slot

end Driver

structure Item where
  value : Json
  expiration : Option Int

def Item.isExpired (item : Item) (now : Int) : Bool :=
  match item.expiration with
  | none => false
  | some expiration => expiration < now

theorem Item.isExpired_later (item : Item) (expired : item.isExpired now = true)
    (later : now ≤ time) : item.isExpired time = true := by
  unfold isExpired at expired ⊢
  split at expired
  · cases expired
  · simp only [decide_eq_true_eq] at expired ⊢
    omega

end ShadowPanel.Cache

namespace ShadowPanel

open Data
open ShadowPanel.Cache (Driver Item)

structure Cache (driver : Driver) where items : List Char → Option Item

namespace Cache

variable (cache : Cache driver)

def empty : Cache driver where
  items := fun _ => none

def item (key : String) : Option Item := cache.items (driver.slot key)

def delete (key : String) : Cache driver where
  items := Function.update cache.items (driver.slot key) none

def set (now : Int) (key : String) (value : Json) (expiration : Int) : Cache driver where
  items := Function.update cache.items (driver.slot key)
    (some ⟨value, if 0 < expiration then some (now + expiration) else none⟩)

def get (now : Int) (key : String) : Option Json :=
  match cache.item key with
  | none => none
  | some item => if item.isExpired now then none else some item.value

def afterGet (now : Int) (key : String) : Cache driver :=
  match cache.item key with
  | none => cache
  | some item =>
    if item.isExpired now && driver.dropsExpired then cache.delete key else cache

def clear : Cache driver where
  items := fun slot => if driver.clears slot then none else cache.items slot

def deletePattern (pattern : String) : Cache driver where
  items := fun slot =>
    if Glob.accepts (driver.buildKey pattern).toList slot then none else cache.items slot

variable {cache}

theorem item_delete_of_ne (apart : driver.slot key ≠ driver.slot other) :
    (cache.delete key).item other = cache.item other := by
  simp [item, delete, Function.update_of_ne apart.symm]

theorem item_delete_self (same : driver.slot key = driver.slot other) :
    (cache.delete key).item other = none := by
  simp [item, delete, same]

theorem item_set_of_ne (apart : driver.slot key ≠ driver.slot other) :
    (cache.set now key value expiration).item other = cache.item other := by
  simp [item, set, Function.update_of_ne apart.symm]

@[simp] theorem item_set_self :
    (cache.set now key value expiration).item key =
      some ⟨value, if 0 < expiration then some (now + expiration) else none⟩ := by
  simp [item, set]

theorem item_of_slot_eq (same : driver.slot key = driver.slot other) :
    cache.item key = cache.item other := by
  simp only [item, same]

theorem item_afterGet_of_ne (apart : driver.slot key ≠ driver.slot other) :
    (cache.afterGet now key).item other = cache.item other := by
  unfold afterGet
  split
  · rfl
  · split
    · exact item_delete_of_ne apart
    · rfl

theorem get_afterGet (later : now ≤ time) :
    (cache.afterGet now other).get time key = cache.get time key := by
  by_cases same : driver.slot other = driver.slot key
  · unfold afterGet
    split
    · rfl
    next item found =>
      split
      next dropped =>
        have expired := item.isExpired_later (Bool.and_eq_true _ _ ▸ dropped).1 later
        have stored : cache.item key = some item := (item_of_slot_eq same.symm).trans found
        have gone : (cache.delete other).item key = none := item_delete_self same
        simp only [get, gone, stored, expired, if_true]
      next => rfl
  · simp only [get, item_afterGet_of_ne same]

def KeepsUntil (cache : Cache driver) (key : String) (property : Json → Prop) (deadline : Int) :
    Prop :=
  ∃ item, cache.item key = some item ∧ property item.value ∧
    ∀ time ≤ deadline, item.isExpired time = false

theorem isExpired_set (early : time ≤ now + expiration) :
    Item.isExpired ⟨value, if 0 < expiration then some (now + expiration) else none⟩ time =
      false := by
  unfold Item.isExpired
  split
  · rfl
  next found =>
    split at found
    · cases found
      exact decide_eq_false (by omega)
    · cases found

section

variable {property weaker : Json → Prop}

theorem keepsUntil_set (holds : property value) (covered : deadline ≤ now + expiration) :
    (cache.set now key value expiration).KeepsUntil key property deadline :=
  ⟨_, item_set_self, holds, fun _ early => isExpired_set (Int.le_trans early covered)⟩

variable (kept : cache.KeepsUntil key property deadline)

include kept

theorem KeepsUntil.exists_get (early : now ≤ deadline) :
    ∃ value, cache.get now key = some value ∧ property value := by
  obtain ⟨item, found, holds, live⟩ := kept
  exact ⟨item.value, by simp [get, found, live now early], holds⟩

theorem KeepsUntil.congr {later : Cache driver} (same : later.item other = cache.item key) :
    later.KeepsUntil other property deadline := by
  obtain ⟨item, found, rest⟩ := kept
  exact ⟨item, same.trans found, rest⟩

theorem KeepsUntil.imp (implies : ∀ value, property value → weaker value) :
    cache.KeepsUntil key weaker deadline := by
  obtain ⟨item, found, holds, live⟩ := kept
  exact ⟨item, found, implies item.value holds, live⟩

theorem KeepsUntil.earlier (before : sooner ≤ deadline) : cache.KeepsUntil key property sooner := by
  obtain ⟨item, found, holds, live⟩ := kept
  exact ⟨item, found, holds, fun time early => live time (Int.le_trans early before)⟩

theorem KeepsUntil.afterGet (early : now ≤ deadline) :
    (cache.afterGet now other).KeepsUntil key property deadline := by
  by_cases same : driver.slot other = driver.slot key
  · obtain ⟨item, found, holds, live⟩ := kept
    have stored : cache.item other = some item := (item_of_slot_eq same).trans found
    exact ⟨item, by simp [Cache.afterGet, stored, live now early, found], holds, live⟩
  · exact kept.congr (item_afterGet_of_ne same)

end

section

theorem get_of_later (later : now ≤ time) (hit : cache.get time key = some found) :
    cache.get now key = some found := by
  unfold get at hit ⊢
  split at hit
  · cases hit
  next item stored =>
    split at hit
    · cases hit
    next live =>
      have fresh : ¬ item.isExpired now = true :=
        fun expired => live (item.isExpired_later expired later)
      rw [if_neg fresh]
      exact hit

theorem get_set (hit : (cache.set now key value expiration).get time other = some found) :
    driver.slot key = driver.slot other ∧ found = value ∨ cache.get time other = some found := by
  by_cases same : driver.slot key = driver.slot other
  · left
    simp only [get, ← item_of_slot_eq same, item_set_self, Option.ite_none_left_eq_some,
      Option.some.injEq] at hit
    exact ⟨same, hit.2.symm⟩
  · right
    rwa [get, item_set_of_ne same] at hit

@[simp] theorem get_set_now : (cache.set now key value expiration).get now key = some value := by
  have live : Item.isExpired ⟨value, if 0 < expiration then some (now + expiration) else none⟩
      now = false := by
    unfold Item.isExpired
    split
    · rfl
    next found =>
      split at found
      · cases found
        exact decide_eq_false (by omega)
      · cases found
  simp [get, live]

theorem get_delete (hit : (cache.delete key).get time other = some found) :
    driver.slot key ≠ driver.slot other ∧ cache.get time other = some found := by
  by_cases same : driver.slot key = driver.slot other
  · rw [get, item_delete_self same] at hit
    cases hit
  · refine ⟨same, ?_⟩
    rwa [get, item_delete_of_ne same] at hit

theorem get_clear (hit : cache.clear.get time other = some found) :
    cache.get time other = some found := by
  cases cleared : driver.clears (driver.slot other) with
  | true => simp [get, item, clear, cleared] at hit
  | false => simpa only [get, item, clear, cleared, Bool.false_eq_true, if_false] using hit

theorem get_deletePattern (hit : (cache.deletePattern pattern).get time other = some found) :
    Glob.accepts (driver.buildKey pattern).toList (driver.slot other) = false ∧
      cache.get time other = some found := by
  cases accepted : Glob.accepts (driver.buildKey pattern).toList (driver.slot other) with
  | true => simp [get, item, deletePattern, accepted] at hit
  | false =>
    refine ⟨rfl, ?_⟩
    simpa only [get, item, deletePattern, accepted, Bool.false_eq_true, if_false] using hit

end

theorem get_congr {left right : Cache driver} (same : left.item key = right.item key) :
    left.get now key = right.get now key := by
  simp only [get, same]

end Cache

end ShadowPanel
