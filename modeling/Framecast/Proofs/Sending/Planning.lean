import Mathlib.Data.List.Perm.Basic
import Framecast.Sending.Plan

/-!
# A plan leaves out and rearranges, nothing else

Loss keeps a part of the packets in their order: each has a word of its own, which
settles whether it is kept.  The shuffle exchanges packets that are there: every number
drawn is below its bound, so it only rearranges.  All losses are drawn before the shuffle
draws anything, so the shuffled plan rearranges the very packets that the plan in order
consists of.
-/

namespace Framecast.Sending

open Framecast.Decimal (Double)

variable {α : Type}

/-! ## Loss -/

def Random.words (random : Random) : Nat → List UInt64
  | 0 => []
  | count + 1 => random.word.2 :: random.word.1.words count

theorem Random.length_words (random : Random) (count : Nat) :
    (random.words count).length = count := by
  induction count generalizing random with
  | zero => rfl
  | succ count ih => rw [words, List.length_cons, ih]

/-- The items whose own word is not below the threshold. -/
def drawnBy (threshold : Nat) (random : Random) (items : List α) : List α :=
  ((items.zip (random.words items.length)).filter fun (_, word) =>
    decide (threshold ≤ word.toNat)).map Prod.fst

theorem drawnBy_cons (threshold : Nat) (random : Random) (item : α) (rest : List α) :
    drawnBy threshold random (item :: rest) =
      if random.word.2.toNat < threshold then drawnBy threshold random.word.1 rest
      else item :: drawnBy threshold random.word.1 rest := by
  rw [drawnBy, List.length_cons, Random.words, List.zip_cons_cons, List.filter_cons]
  by_cases hbelow : random.word.2.toNat < threshold
  · rw [if_pos hbelow, if_neg (by simpa using hbelow)]
    rfl
  · rw [if_neg hbelow, if_pos (by simpa using hbelow)]
    rfl

theorem drawnBy_sublist (threshold : Nat) (random : Random) (items : List α) :
    (drawnBy threshold random items).Sublist items := by
  have hwords : items.length ≤ (random.words items.length).length :=
    Nat.le_of_eq (random.length_words items.length).symm
  have hkept : (drawnBy threshold random items).Sublist
      ((items.zip (random.words items.length)).map Prod.fst) := List.filter_sublist.map Prod.fst
  rwa [List.map_fst_zip hwords] at hkept

theorem Loss.thinBelow_eq (threshold : Nat) (random : Random) (items : List α) :
    (thin.thinBelow threshold random items).2 = drawnBy threshold random items := by
  induction items generalizing random with
  | nil => rfl
  | cons item rest ih =>
      rw [drawnBy_cons, ← ih]
      rfl

theorem Loss.thin_sublist (loss : Loss) (random : Random) (items : List α) :
    (loss.thin random items).2.Sublist items := by
  cases loss with
  | never => exact List.Sublist.refl items
  | below threshold =>
      rw [thin, thinBelow_eq]
      exact drawnBy_sublist threshold random items
  | always => exact List.nil_sublist items

theorem Loss.ofRate_zero {negative : Bool} {rate : Decimal.Dyadic} (h : rate.numerator = 0) :
    Loss.ofRate (.finite negative rate) = .never := by
  have hmantissa : rate.mantissa = 0 := by
    rcases Nat.mul_eq_zero.mp h with hmantissa | hpower
    · exact hmantissa
    · exact absurd hpower (Nat.ne_of_gt (Nat.two_pow_pos _))
  rw [ofRate, if_pos (Or.inr hmantissa)]

theorem mantissa_ne_zero {rate : Decimal.Dyadic} (h : 0 < rate.numerator) :
    rate.mantissa ≠ 0 := by
  intro hzero
  rw [Decimal.Dyadic.numerator, hzero, Nat.zero_mul] at h
  exact Nat.lt_irrefl 0 h

theorem Loss.ofRate_one {rate : Decimal.Dyadic} (h : rate.numerator = rate.denominator) :
    Loss.ofRate (.finite false rate) = .always := by
  have hpositive : 0 < rate.numerator := by
    rw [h]
    exact Nat.two_pow_pos _
  rw [ofRate, if_neg (by simp [mantissa_ne_zero hpositive]), if_pos (Nat.le_of_eq h.symm)]

theorem Loss.ofRate_between {rate : Decimal.Dyadic} (hpositive : 0 < rate.numerator)
    (hlt : rate.numerator < rate.denominator) :
    Loss.ofRate (.finite false rate) =
      .below (rate.numerator * UInt64.size / rate.denominator) := by
  rw [ofRate, if_neg (by simp [mantissa_ne_zero hpositive]), if_neg (Nat.not_le.mpr hlt)]

/-! ## Order -/

namespace Random

theorem halfWord_lt (random : Random) : random.halfWord.2 < UInt32.size :=
  Nat.mod_lt _ (by decide)

theorem scaled_lt {range : Nat} (hpositive : 0 < range) (random : Random) :
    random.halfWord.2 * range / UInt32.size < range := by
  rw [Nat.div_lt_iff_lt_mul (by decide), Nat.mul_comm range]
  exact Nat.mul_lt_mul_of_pos_right random.halfWord_lt hpositive

theorem belowWithin_succ (range tries : Nat) (random : Random) :
    belowWithin range (tries + 1) random =
      if random.halfWord.2 * range % UInt32.size ≤ acceptedZone range then
        (random.halfWord.1, random.halfWord.2 * range / UInt32.size)
      else belowWithin range tries random.halfWord.1 := rfl

theorem belowWithin_lt {range : Nat} (hpositive : 0 < range) (tries : Nat) (random : Random) :
    (belowWithin range tries random).2 < range := by
  induction tries generalizing random with
  | zero => exact scaled_lt hpositive random
  | succ tries ih =>
      rw [belowWithin_succ]
      split
      · exact scaled_lt hpositive random
      · exact ih _

theorem below_lt {range : Nat} (hpositive : 0 < range) (random : Random) :
    (random.below range).2 < range :=
  belowWithin_lt hpositive 1024 random

theorem exchange_perm {items : Array α} {i j : Nat} (hi : i < items.size)
    (hj : j < items.size) : (exchange items i j).Perm items := by
  rw [exchange, Array.swapIfInBounds, dif_pos hi, dif_pos hj]
  exact Array.swap_perm hi hj

theorem shuffleFirst_perm {count : Nat} (random : Random) {items : Array α}
    (hcount : count ≤ items.size) : (shuffleFirst count random items).2.Perm items := by
  induction count generalizing random items with
  | zero => exact Array.Perm.refl items
  | succ count ih =>
      cases count with
      | zero => exact Array.Perm.refl items
      | succ count =>
          have hdrawn : (random.below (count + 2)).2 < count + 2 :=
            random.below_lt (Nat.succ_pos _)
          have hexchanged : (exchange items (count + 1) (random.below (count + 2)).2).Perm
              items := exchange_perm hcount (Nat.lt_of_lt_of_le hdrawn hcount)
          have hsize : count + 1 ≤
              (exchange items (count + 1) (random.below (count + 2)).2).size := by
            rw [hexchanged.size_eq]
            exact Nat.le_of_succ_le hcount
          rw [shuffleFirst]
          exact (ih _ hsize).trans hexchanged

theorem shuffle_perm (random : Random) (items : List α) :
    (random.shuffle items).2.Perm items :=
  (shuffleFirst_perm random (Nat.le_refl items.toArray.size)).toList

end Random

/-! ## Plans -/

theorem plan_sublist (loss : Loss) (random : Random) (items : List α) :
    (plan ⟨loss, false⟩ random items).2.Sublist items :=
  loss.thin_sublist random items

/-- The shuffle rearranges what the same generator keeps without it. -/
theorem plan_perm (loss : Loss) (random : Random) (items : List α) :
    (plan ⟨loss, true⟩ random items).2.Perm (plan ⟨loss, false⟩ random items).2 :=
  Random.shuffle_perm (loss.thin random items).1 (loss.thin random items).2

structure Plans (rate : Double) (random : Random) (items : List α) : Prop where
  in_order : (plan ⟨.ofRate rate, false⟩ random items).2.Sublist items
  shuffled : (plan ⟨.ofRate rate, true⟩ random items).2.Perm
    (plan ⟨.ofRate rate, false⟩ random items).2
  all_kept : ∀ (negative : Bool) (x : Decimal.Dyadic), rate = .finite negative x →
    x.numerator = 0 → (plan ⟨.ofRate rate, false⟩ random items).2 = items
  none_kept : ∀ x : Decimal.Dyadic, rate = .finite false x → x.numerator = x.denominator →
    (plan ⟨.ofRate rate, false⟩ random items).2 = []
  each_drawn : ∀ x : Decimal.Dyadic, rate = .finite false x → 0 < x.numerator →
    x.numerator < x.denominator → (plan ⟨.ofRate rate, false⟩ random items).2 =
      drawnBy (x.numerator * UInt64.size / x.denominator) random items

theorem plans_ofRate (rate : Double) (random : Random) (items : List α) :
    Plans rate random items where
  in_order := plan_sublist (.ofRate rate) random items
  shuffled := plan_perm (.ofRate rate) random items
  all_kept := by
    rintro negative x rfl hzero
    rw [Loss.ofRate_zero hzero]
    rfl
  none_kept := by
    rintro x rfl hone
    rw [Loss.ofRate_one hone]
    rfl
  each_drawn := by
    rintro x rfl hpositive hlt
    rw [Loss.ofRate_between hpositive hlt]
    exact Loss.thinBelow_eq _ random items

theorem mem_of_mem_plan {options : Options} {random : Random} {items : List α} {item : α}
    (h : item ∈ (plan options random items).2) : item ∈ items := by
  obtain ⟨loss, shuffle⟩ := options
  cases shuffle with
  | false => exact (plan_sublist loss random items).subset h
  | true => exact (plan_sublist loss random items).subset ((plan_perm loss random items).subset h)

theorem length_plan_le (options : Options) (random : Random) (items : List α) :
    (plan options random items).2.length ≤ items.length := by
  obtain ⟨loss, shuffle⟩ := options
  have hle := (plan_sublist loss random items).length_le
  cases shuffle with
  | false => exact hle
  | true => exact (plan_perm loss random items).length_eq ▸ hle

end Framecast.Sending
