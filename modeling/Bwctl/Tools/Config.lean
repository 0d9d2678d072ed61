import Bwctl.Tools.Ports

/-!
# The configuration of a context (`bwlib/context.c`)

Options are kept in a table under their keys.  A key names the type of its value in its first
letters; the options of the tools are all of the type `V.`, a pointer to a text or to a range of
ports.

* `Config.getV_store_self`, `Config.getV_store_of_ne` — what a look-up finds behind a store.
-/

set_option autoImplicit false

namespace Bwctl

/-- What the pointers of the table lead to. -/
inductive ConfigValue where
  | text (val : List Char)
  | ports (prange : PortRange)
  deriving DecidableEq, Repr

abbrev Config := List (List Char × ConfigValue)

/-- `_BWL_CONTEXT_MAX_KEYLEN`. -/
def CONTEXT_MAX_KEYLEN : Nat := 64

/-- The prefix of a key whose value is a pointer. -/
def valuePrefix : List Char := ['V', '.']

/-- `ConfigGetV`, which compares the first bytes of the key only. -/
def Config.getV (config : Config) (key : List Char) : Option ConfigValue :=
  if key.take 2 = valuePrefix then config.lookup (key.take CONTEXT_MAX_KEYLEN) else none

/-- The entry of the table: an earlier record of the key is freed. -/
def Config.store (config : Config) (key : List Char) (val : ConfigValue) : Config :=
  (key, val) :: config.filter fun entry => entry.1 != key

/-- How `BWLContextConfigSet` can end without a store: a key of no known type, and the assertion
on the length of the key. -/
inductive ConfigError where
  | unknownType
  | keyTooLong
  deriving DecidableEq, Repr

/-- `BWLContextConfigSet` for a pointer. -/
def Config.setV (config : Config) (key : List Char) (val : ConfigValue) :
    Except ConfigError Config :=
  if key.take 2 ≠ valuePrefix then .error .unknownType
  else if ¬ key.length < CONTEXT_MAX_KEYLEN then .error .keyTooLong
  else .ok (config.store key val)

theorem Config.setV_ok {config config' : Config} {key : List Char} {val : ConfigValue}
    (h : config.setV key val = .ok config') :
    key.take 2 = valuePrefix ∧ key.length < CONTEXT_MAX_KEYLEN ∧
      config' = config.store key val := by
  unfold setV at h
  split at h
  · cases h
  rename_i htype
  split at h
  · cases h
  rename_i hlen
  cases h
  exact ⟨not_not.1 htype, not_not.1 hlen, rfl⟩

theorem Config.lookup_filter_of_ne (config : Config) {key key' : List Char} (h : key' ≠ key) :
    (config.filter fun entry => entry.1 != key).lookup key' = config.lookup key' := by
  induction config with
  | nil => rfl
  | cons entry config ih =>
    obtain ⟨k, val⟩ := entry
    by_cases hk : k = key
    · subst hk
      have hne : (key' == k) = false := by simpa using h
      simpa [List.lookup_cons, hne] using ih
    · have hkeep : ((k, val).1 != key) = true := by simpa using hk
      rw [List.filter_cons, if_pos hkeep, List.lookup_cons, List.lookup_cons, ih]

/-- **The key that was stored** is found with its new value. -/
theorem Config.getV_store_self (config : Config) {key : List Char} (val : ConfigValue)
    (htype : key.take 2 = valuePrefix) (hlen : key.length < CONTEXT_MAX_KEYLEN) :
    (config.store key val).getV key = some val := by
  unfold getV store
  rw [if_pos htype, List.take_of_length_le hlen.le, List.lookup_cons, beq_self_eq_true]

/-- **Every other key** is found as before. -/
theorem Config.getV_store_of_ne (config : Config) {key key' : List Char} (val : ConfigValue)
    (h : key'.take CONTEXT_MAX_KEYLEN ≠ key) :
    (config.store key val).getV key' = config.getV key' := by
  unfold getV store
  have hne : (key'.take CONTEXT_MAX_KEYLEN == key) = false := by simpa using h
  rw [List.lookup_cons, hne, lookup_filter_of_ne config h]

/-- The range of ports a key of the table leads to. -/
def Config.range? (config : Config) (key : List Char) : Option PortRange :=
  match config.getV key with
  | some (.ports prange) => some prange
  | _ => none

end Bwctl
