import AfsToken.Octets.Basic

/-!
# Integers of a fixed width

The token record keeps its integers with the least significant octet first, the credential cache
and the Kerberos messages with the most significant octet first.  Both orders are one list and its
reverse, so one set of lemmas serves both: a value is read back modulo the width, an octet string
is written back unchanged, and what is read fits the width.
-/

namespace AfsToken.Octets

/-- The number of values that `width` octets can have. -/
def span : (width : Nat) → Nat
  | 0 => 1
  | width + 1 => 256 * span width

/-- The last `width` base-256 digits of `value`, least significant first. -/
def ofNatLE : (width value : Nat) → Octets
  | 0, _ => []
  | width + 1, value => UInt8.ofNat value :: ofNatLE width (value / 256)

/-- The value of base-256 digits, least significant first. -/
def toNatLE : Octets → Nat
  | [] => 0
  | octet :: rest => octet.toNat + 256 * toNatLE rest

/-- The last `width` base-256 digits of `value`, most significant first. -/
def ofNatBE (width value : Nat) : Octets := (ofNatLE width value).reverse

/-- The value of base-256 digits, most significant first. -/
def toNatBE (octets : Octets) : Nat := toNatLE octets.reverse

@[simp]
theorem length_ofNatLE (width value : Nat) : (ofNatLE width value).length = width := by
  induction width generalizing value with
  | zero => rfl
  | succ width ih => simp [ofNatLE, ih]

@[simp]
theorem length_ofNatBE (width value : Nat) : (ofNatBE width value).length = width := by
  simp [ofNatBE]

theorem toNatLE_ofNatLE (width value : Nat) :
    toNatLE (ofNatLE width value) = value % span width := by
  induction width generalizing value with
  | zero => simp [ofNatLE, toNatLE, span, Nat.mod_one]
  | succ width ih =>
      rw [ofNatLE, toNatLE, ih, span, Nat.mod_mul]
      simp

theorem toNatLE_lt (octets : Octets) : toNatLE octets < span octets.length := by
  induction octets with
  | nil => simp [toNatLE, span]
  | cons octet rest ih =>
      have hoctet := octet.toNat_lt
      rw [toNatLE, List.length_cons, span]
      omega

theorem ofNatLE_toNatLE (octets : Octets) : ofNatLE octets.length (toNatLE octets) = octets := by
  induction octets with
  | nil => rfl
  | cons octet rest ih =>
      have hoctet := octet.toNat_lt
      have hdiv : (octet.toNat + 256 * toNatLE rest) / 256 = toNatLE rest := by omega
      have hmod : (octet.toNat + 256 * toNatLE rest) % 256 = octet.toNat := by omega
      rw [toNatLE, List.length_cons, ofNatLE, hdiv, ih]
      congr 1
      apply UInt8.toNat_inj.mp
      rw [UInt8.toNat_ofNat', hmod]

theorem toNatBE_ofNatBE (width value : Nat) :
    toNatBE (ofNatBE width value) = value % span width := by
  simp [toNatBE, ofNatBE, toNatLE_ofNatLE]

end AfsToken.Octets
