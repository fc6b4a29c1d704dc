import ApiSchema.Platform.Alipay
import ApiSchema.Proofs.Word

/-!
The bounds of 支付宝. They are computed in sixty-four bits with an exponent of thirty-two, and are what
unbounded numbers give: no product is cut off, and the greatest price stands for every greater one.
-/

set_option autoImplicit false

namespace ApiSchema.Alipay

variable {exactType : String} {characters limit : UInt64}

def IsPrice (exactType : String) : Prop := Text.equalsIgnoringCase exactType "price" = true

def IsNumber (exactType : String) : Prop := Text.equalsIgnoringCase exactType "number" = true

instance : DecidablePred IsPrice := fun _ => inferInstanceAs (Decidable (_ = true))

instance : DecidablePred IsNumber := fun _ => inferInstanceAs (Decidable (_ = true))

theorem isPrice_iff : IsPrice exactType ↔ Text.lowerAscii exactType = "price" := beq_iff_eq

theorem isNumber_iff : IsNumber exactType ↔ Text.lowerAscii exactType = "number" := beq_iff_eq

theorem bound_price (price : IsPrice exactType) (characters : UInt64) :
    bound exactType characters =
      Word.boundedPow 10 (Word.boundedHalf (Word.boundedSub characters 3)) := by
  rw [bound, isPrice_iff.mp price]
  rfl

theorem bound_number (number : IsNumber exactType) (characters : UInt64) :
    bound exactType characters =
      if characters ≤ 10 then Word.wrappedPow 10 characters.toUInt32 else characters := by
  rw [bound, isNumber_iff.mp number]
  rfl

theorem bound_other (noPrice : ¬ IsPrice exactType) (noNumber : ¬ IsNumber exactType)
    (characters : UInt64) : bound exactType characters = characters := by
  rw [isPrice_iff] at noPrice
  rw [isNumber_iff] at noNumber
  unfold bound
  split <;> trivial

/-- The twentieth power of ten is the first that does not fit. -/
theorem min_pow_of_le {exponent : Nat} (far : 20 ≤ exponent) :
    min (10 ^ exponent) (2 ^ 64 - 1) = 2 ^ 64 - 1 := by
  have twentieth : 2 ^ 64 - 1 ≤ 10 ^ 20 := by norm_num
  exact min_eq_right (twentieth.trans (Nat.pow_le_pow_right (by norm_num) far))

/-- Where exponents are bounded as well makes no difference past the twentieth. -/
theorem min_pow_min {cap : Nat} (far : 20 ≤ cap) (exponent : Nat) :
    min (10 ^ min exponent cap) (2 ^ 64 - 1) = min (10 ^ exponent) (2 ^ 64 - 1) := by
  rcases Nat.le_total exponent cap with less | more
  · rw [min_eq_left less]
  · rw [min_eq_right more, min_pow_of_le far, min_pow_of_le (far.trans more)]

theorem toNat_bound_price (price : IsPrice exactType) (characters : UInt64) :
    (bound exactType characters).toNat = min (10 ^ (max characters.toNat 3 - 3)) (2 ^ 64 - 1) := by
  have ten : (10 : UInt64).toNat = 10 := rfl
  have three : (3 : UInt64).toNat = 3 := rfl
  have above : max characters.toNat 3 - 3 = characters.toNat - 3 := by omega
  rw [bound_price price, Word.toNat_boundedPow (by decide), Word.toNat_boundedHalf,
    Word.toNat_boundedSub, ten, three, above, min_pow_min (by norm_num)]

/-- As many digits as are raised to a power fit: neither the exponent nor the power is cut off. -/
theorem toNat_wrappedPow_ten (few : characters ≤ 10) :
    (Word.wrappedPow 10 characters.toUInt32).toNat = 10 ^ characters.toNat ∧
      Word.pow? 10 characters.toUInt32 = some (Word.wrappedPow 10 characters.toUInt32) := by
  have few : characters.toNat ≤ 10 := UInt64.le_iff_toNat_le.mp few
  have exponent : characters.toUInt32.toNat = characters.toNat := by
    rw [UInt64.toNat_toUInt32]
    omega
  have fits : 10 ^ characters.toUInt32.toNat < 2 ^ 64 := by
    calc
      10 ^ characters.toUInt32.toNat ≤ 10 ^ 10 :=
        Nat.pow_le_pow_right (by norm_num) (exponent.trans_le few)
      _ < 2 ^ 64 := by norm_num
  have whole : (Word.wrappedPow 10 characters.toUInt32).toNat = 10 ^ characters.toUInt32.toNat :=
    Word.toNat_wrappedPow fits
  exact ⟨whole.trans (congrArg _ exponent), (Word.pow?_eq_some_iff (by decide)).mpr whole⟩

theorem toNat_bound_number (number : IsNumber exactType) (characters : UInt64) :
    (bound exactType characters).toNat =
      if characters.toNat ≤ 10 then 10 ^ characters.toNat else characters.toNat := by
  have ten : characters ≤ 10 ↔ characters.toNat ≤ 10 := UInt64.le_iff_toNat_le
  rw [bound_number number]
  split
  · rename_i few
    rw [if_pos (ten.mp few), (toNat_wrappedPow_ten few).1]
  · rename_i many
    rw [if_neg (mt ten.mpr many)]

theorem bound?_eq_some_iff :
    bound? exactType (some characters) = some limit ↔
      characters ≠ 0 ∧ bound exactType characters = limit := by
  simp [bound?, Option.filter_eq_some_iff, UInt64.pos_iff_ne_zero]

theorem bound?_eq_none_iff {characters : Option UInt64} :
    bound? exactType characters = none ↔ characters = none ∨ characters = some 0 := by
  cases characters <;> simp [bound?, UInt64.pos_iff_ne_zero]

/-- The bound of a price grows with the number of its characters. -/
theorem bound_price_mono (price : IsPrice exactType) {fewer more : UInt64} (less : fewer ≤ more) :
    bound exactType fewer ≤ bound exactType more := by
  have less : fewer.toNat ≤ more.toNat := UInt64.le_iff_toNat_le.mp less
  have exponents : max fewer.toNat 3 - 3 ≤ max more.toNat 3 - 3 := by omega
  rw [UInt64.le_iff_toNat_le, toNat_bound_price price, toNat_bound_price price]
  exact min_le_min_right _ (Nat.pow_le_pow_right (by norm_num) exponents)

/-- There is a bound unless there are no characters. It is the one of unbounded numbers, except that
no price has a greater one than sixty-four bits hold, and no number needs a power that is cut off. -/
theorem bound?_exact (exactType : String) :
    (∀ characters, bound? exactType characters = none ↔
      characters = none ∨ characters = some 0) ∧
    (∀ characters limit, bound? exactType (some characters) = some limit →
      (IsPrice exactType → limit.toNat = min (10 ^ (max characters.toNat 3 - 3)) (2 ^ 64 - 1)) ∧
      (IsNumber exactType →
        limit.toNat = (if characters.toNat ≤ 10 then 10 ^ characters.toNat
          else characters.toNat) ∧
        (characters ≤ 10 → Word.pow? 10 characters.toUInt32 = some limit)) ∧
      (¬ IsPrice exactType → ¬ IsNumber exactType → limit = characters)) ∧
    (IsPrice exactType → ∀ fewer more lower higher, fewer ≤ more →
      bound? exactType (some fewer) = some lower → bound? exactType (some more) = some higher →
      lower ≤ higher) := by
  refine ⟨fun _ => bound?_eq_none_iff, fun characters limit given => ?_, ?_⟩
  · obtain ⟨_, rfl⟩ := bound?_eq_some_iff.mp given
    refine ⟨fun price => toNat_bound_price price characters, fun number => ?_, ?_⟩
    · refine ⟨toNat_bound_number number characters, fun few => ?_⟩
      rw [bound_number number, if_pos few]
      exact (toNat_wrappedPow_ten few).2
    · intro noPrice noNumber
      exact bound_other noPrice noNumber characters
  · intro price fewer more lower higher less given givenToo
    obtain ⟨_, rfl⟩ := bound?_eq_some_iff.mp given
    obtain ⟨_, rfl⟩ := bound?_eq_some_iff.mp givenToo
    exact bound_price_mono price less

theorem bound?_exact_borders :
    IsPrice "pRICE" ∧
      (∃ limit, bound? "pRICE" (some 22) = some limit ∧ limit.toNat = 10 ^ 19) ∧
      (∃ limit, bound? "pRICE" (some 4294967299) = some limit ∧ limit.toNat = 2 ^ 64 - 1) ∧
      IsNumber "NUMBER" ∧
      (∃ limit, bound? "NUMBER" (some 10) = some limit ∧ limit.toNat = 10 ^ 10 ∧
        Word.pow? 10 10 = some limit) ∧
      (¬ IsPrice "Text" ∧ ¬ IsNumber "Text" ∧ bound? "Text" (some 4294967299) = some 4294967299) ∧
      ∀ lower higher, bound? "pRICE" (some 22) = some lower →
        bound? "pRICE" (some 4294967299) = some higher → lower ≤ higher := by
  have given (exactType : String) (characters : UInt64) (filled : characters ≠ 0) :
      bound? exactType (some characters) = some (bound exactType characters) :=
    bound?_eq_some_iff.mpr ⟨filled, rfl⟩
  have price : IsPrice "pRICE" := by decide
  have number : IsNumber "NUMBER" := by decide
  have noPrice : ¬ IsPrice "Text" := by decide
  have noNumber : ¬ IsNumber "Text" := by decide
  have few := given "pRICE" 22 (by decide)
  have many := given "pRICE" 4294967299 (by decide)
  have ten := given "NUMBER" 10 (by decide)
  have other := given "Text" 4294967299 (by decide)
  have bounds exactType := (bound?_exact exactType).2.1
  refine ⟨price, ⟨_, few, ?_⟩, ⟨_, many, ?_⟩, number, ⟨_, ten, ?_⟩, ?_, ?_⟩
  · exact (bounds "pRICE" 22 _ few).1 price
  · exact ((bounds "pRICE" 4294967299 _ many).1 price).trans (min_pow_of_le (by decide))
  · have ⟨exact, fits⟩ := (bounds "NUMBER" 10 _ ten).2.1 number
    exact ⟨exact, fits (by decide)⟩
  · have same := (bounds "Text" 4294967299 _ other).2.2 noPrice noNumber
    exact ⟨noPrice, noNumber, other.trans (congrArg some same)⟩
  · intro lower higher
    exact (bound?_exact "pRICE").2.2 price 22 4294967299 lower higher (by decide)

end ApiSchema.Alipay
