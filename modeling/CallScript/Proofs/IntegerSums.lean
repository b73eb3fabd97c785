import CallScript.Proofs.GroundValues
import Mathlib

/-!
# Sums of integers

The sum of integers is computed from the first to the last, and its total is held in 64 bits at
every step. So it is exact where it is given, but whether it is given depends on the sums of all
beginnings of the arguments and not on the whole sum alone: a total that leaves the range on the way
is a fault, also where later arguments would bring it back. Arguments of one sign never do that, and
every sum that fits is reached in some order.
-/

namespace CallScript

namespace Standard

/-- Whether an integer has 64 bits. -/
def FitsWord (n : Int) : Prop :=
  -2 ^ 63 ≤ n ∧ n ≤ 2 ^ 63 - 1

instance (n : Int) : Decidable (FitsWord n) :=
  inferInstanceAs (Decidable (_ ∧ _))

theorem fitsWord_toInt (n : Int64) : FitsWord n.toInt := by
  have hlow := n.le_toInt
  have hhigh := n.toInt_lt
  exact ⟨hlow, by omega⟩

/-- The sum of integers as a number. -/
def exactSum (ns : List Int64) : Int :=
  (ns.map Int64.toInt).sum

theorem exactSum_nil : exactSum [] = 0 :=
  rfl

theorem exactSum_cons (n : Int64) (ns : List Int64) :
    exactSum (n :: ns) = n.toInt + exactSum ns :=
  List.sum_cons

theorem exactSum_append (ns ms : List Int64) : exactSum (ns ++ ms) = exactSum ns + exactSum ms := by
  rw [exactSum, List.map_append, List.sum_append]
  rfl

theorem exactSum_perm {ns ms : List Int64} (h : ns.Perm ms) : exactSum ns = exactSum ms :=
  (h.map Int64.toInt).sum_eq

theorem exactSum_nonneg {ns : List Int64} (h : ∀ n ∈ ns, 0 ≤ n.toInt) : 0 ≤ exactSum ns :=
  List.sum_nonneg (List.forall_mem_map.mpr h)

theorem exactSum_nonpos {ns : List Int64} (h : ∀ n ∈ ns, n.toInt ≤ 0) : exactSum ns ≤ 0 :=
  calc
    exactSum ns ≤ (ns.map Int64.toInt).length • (0 : Int) :=
      List.sum_le_card_nsmul _ 0 (List.forall_mem_map.mpr h)
    _ = 0 := nsmul_zero _

/-- From a start on, the total has 64 bits behind every beginning of the integers. -/
def StaysWithin (start : Int) (ns : List Int64) : Prop :=
  ∀ beginning, beginning <+: ns → FitsWord (start + exactSum beginning)

/-- The total stays within 64 bits if its start and its next value do and it does from there on. -/
theorem staysWithin_cons_iff {start : Int} (hstart : FitsWord start) (n : Int64)
    (ns : List Int64) : StaysWithin start (n :: ns) ↔ StaysWithin (start + n.toInt) ns := by
  constructor
  · intro h beginning hbeginning
    have hfits := h (n :: beginning) (List.prefix_cons_inj n |>.mpr hbeginning)
    rwa [exactSum_cons, ← Int.add_assoc] at hfits
  · intro h beginning hbeginning
    rcases List.prefix_cons_iff.mp hbeginning with rfl | ⟨rest, rfl, hrest⟩
    · rwa [exactSum_nil, Int.add_zero]
    · rw [exactSum_cons, ← Int.add_assoc]
      exact h rest hrest

/-- A total that stays within 64 bits ends there. -/
theorem StaysWithin.fitsWord {ns : List Int64} (h : StaysWithin 0 ns) : FitsWord (exactSum ns) := by
  have hall := h ns (List.prefix_refl ns)
  rwa [Int.zero_add] at hall

/-! ## One step and a run -/

/-- One step gives the exact total if it has 64 bits, and a fault if it has not. -/
theorem add_int_cases (a b : Int64) :
    (FitsWord (a.toInt + b.toInt) ∧
      ∃ c : Int64, Total.add (.int a) (.int b) = .ok (.int c) ∧ c.toInt = a.toInt + b.toInt) ∨
    (¬ FitsWord (a.toInt + b.toInt) ∧ Total.add (.int a) (.int b) = .error .overflow) := by
  unfold FitsWord
  change _ ∧ (∃ c, Total.addInt a b = _ ∧ _) ∨ _ ∧ Total.addInt a b = _
  unfold Total.addInt
  dsimp only
  split
  · next h =>
    refine .inl ⟨by omega, _, rfl, Int64.toInt_ofInt_of_le (by omega) (by omega)⟩
  · next h => exact .inr ⟨by omega, rfl⟩

/-- A run gives the exact total if it stays within 64 bits, and a fault if it does not. -/
theorem foldlM_add_cases (a : Int64) (ns : List Int64) :
    (StaysWithin a.toInt ns ∧ ∃ c : Int64,
      (ns.map Value.int).foldlM Total.add (.int a) = .ok (.int c) ∧
        c.toInt = a.toInt + exactSum ns) ∨
    (¬ StaysWithin a.toInt ns ∧
      (ns.map Value.int).foldlM Total.add (.int a) = .error .overflow) := by
  induction ns generalizing a with
  | nil =>
    refine .inl ⟨?_, a, rfl, (Int.add_zero _).symm⟩
    intro beginning hbeginning
    rw [List.prefix_nil.mp hbeginning]
    exact (Int.add_zero a.toInt).symm ▸ fitsWord_toInt a
  | cons n ns ih =>
    rw [staysWithin_cons_iff (fitsWord_toInt a), exactSum_cons, ← Int.add_assoc, List.map_cons,
      List.foldlM_cons]
    rcases add_int_cases a n with ⟨hfits, c, hadd, hc⟩ | ⟨hfits, hadd⟩
    · rw [hadd, ← hc]
      exact ih c
    · -- the total leaves the range right here, which is the shortest beginning of the rest
      rw [hadd]
      refine .inr ⟨fun hstays => hfits ?_, rfl⟩
      have hnil := hstays [] (List.nil_prefix)
      rwa [exactSum_nil, Int.add_zero] at hnil

/-! ## Orders -/

/-- Integers none of which takes back what another one adds. -/
def OneSigned (ns : List Int64) : Prop :=
  (∀ n ∈ ns, 0 ≤ n.toInt) ∨ ∀ n ∈ ns, n.toInt ≤ 0

theorem OneSigned.perm {ns ms : List Int64} (h : OneSigned ns) (hperm : ms.Perm ns) :
    OneSigned ms :=
  h.imp (fun hns n hn => hns n (hperm.mem_iff.mp hn)) (fun hns n hn => hns n (hperm.mem_iff.mp hn))

/-- Integers of one sign sum up without turning back. -/
theorem OneSigned.between {beginning ns : List Int64} (h : OneSigned ns)
    (hbeginning : beginning <+: ns) :
    0 ≤ exactSum beginning ∧ exactSum beginning ≤ exactSum ns ∨
    exactSum ns ≤ exactSum beginning ∧ exactSum beginning ≤ 0 := by
  obtain ⟨rest, rfl⟩ := hbeginning
  rw [exactSum_append]
  rcases h with hnonneg | hnonpos
  · obtain ⟨hfirst, hrest⟩ := List.forall_mem_append.mp hnonneg
    have hbegins := exactSum_nonneg hfirst
    have hends := exactSum_nonneg hrest
    omega
  · obtain ⟨hfirst, hrest⟩ := List.forall_mem_append.mp hnonpos
    have hbegins := exactSum_nonpos hfirst
    have hends := exactSum_nonpos hrest
    omega

/-- A total of integers of one sign stays within 64 bits if it ends there. -/
theorem OneSigned.staysWithin_iff {ns : List Int64} (h : OneSigned ns) :
    StaysWithin 0 ns ↔ FitsWord (exactSum ns) := by
  refine ⟨StaysWithin.fitsWord, ?_⟩
  intro hfits beginning hbeginning
  have hbetween := h.between hbeginning
  unfold FitsWord at *
  omega

/-- An integer of the other sign keeps a total within 64 bits. -/
theorem fitsWord_add_of_opposite {start : Int} {n : Int64} (hstart : FitsWord start)
    (h : 0 ≤ start ∧ n.toInt ≤ 0 ∨ start ≤ 0 ∧ 0 ≤ n.toInt) : FitsWord (start + n.toInt) := by
  have hn := fitsWord_toInt n
  unfold FitsWord at *
  omega

/-- As long as integers are left, one of them keeps a total within 64 bits that ends there: one of
the other sign, or any if all have the same sign. -/
theorem exists_fitsWord_add {start : Int} {ns : List Int64} (hne : ns ≠ [])
    (hstart : FitsWord start) (hend : FitsWord (start + exactSum ns)) :
    ∃ n ∈ ns, FitsWord (start + n.toInt) := by
  by_contra hnone
  have hsigned : OneSigned ns := by
    rcases Int.le_total 0 start with hsign | hsign
    · refine .inl fun n hn => ?_
      by_contra hneg
      exact hnone ⟨n, hn, fitsWord_add_of_opposite hstart (.inl ⟨hsign, by omega⟩)⟩
    · refine .inr fun n hn => ?_
      by_contra hpos
      exact hnone ⟨n, hn, fitsWord_add_of_opposite hstart (.inr ⟨hsign, by omega⟩)⟩
  obtain ⟨n, rest, rfl⟩ := List.exists_cons_of_ne_nil hne
  have hfirst : [n] <+: n :: rest := ⟨rest, rfl⟩
  have hbetween := hsigned.between hfirst
  have hsingle : exactSum [n] = n.toInt := List.sum_singleton
  refine hnone ⟨n, List.mem_cons_self, ?_⟩
  unfold FitsWord at *
  omega

/-- A total that ends within 64 bits stays there in some order of the integers. -/
theorem exists_perm_staysWithin {start : Int} {ns : List Int64} (hstart : FitsWord start)
    (hend : FitsWord (start + exactSum ns)) : ∃ ms, ms.Perm ns ∧ StaysWithin start ms := by
  induction hlength : ns.length generalizing start ns with
  | zero =>
    refine ⟨ns, List.Perm.refl ns, fun beginning hbeginning => ?_⟩
    obtain rfl := List.eq_nil_of_length_eq_zero hlength
    rwa [List.prefix_nil.mp hbeginning]
  | succ k ih =>
    have hne : ns ≠ [] := List.ne_nil_of_length_eq_add_one hlength
    obtain ⟨n, hn, hfits⟩ := exists_fitsWord_add hne hstart hend
    have hperm := List.perm_cons_erase hn
    have hrest : FitsWord (start + n.toInt + exactSum (ns.erase n)) := by
      rwa [exactSum_perm hperm, exactSum_cons, ← Int.add_assoc] at hend
    obtain ⟨ms, hms, hstays⟩ := ih hfits hrest (by rw [List.length_erase_of_mem hn]; omega)
    exact ⟨n :: ms, (hms.cons n).trans hperm.symm,
      (staysWithin_cons_iff hstart n ms).mpr hstays⟩

end Standard

/-! ## Calls -/

variable {F : Type}

/-- Integers are their own values. -/
theorem Session.resolveAll_map_int (s : Session F) (ns : List Int64) :
    s.resolveAll (ns.map Value.int) = (ns.map Value.int, s) := by
  induction ns with
  | nil => rfl
  | cons n ns ih =>
    rw [List.map_cons, resolveAll]
    change ((Value.int n :: (s.resolveAll (ns.map Value.int)).1),
      (s.resolveAll (ns.map Value.int)).2) = _
    rw [ih]

namespace StandardFunction

open Standard

/-- The answer of `sum` to a total that leaves the range of 64 bits. -/
def overflow : Value :=
  .error "@sum: integer overflow"

/-- The function answers integers with their exact sum if its total stays within 64 bits, and with
an error if it does not. -/
theorem apply_sum_cases (s : Session F) (ns : List Int64) :
    (StaysWithin 0 ns ∧ ∃ n : Int64, (sum.apply (ns.map .int) s).1 = .int n ∧
      n.toInt = exactSum ns) ∨
    (¬ StaysWithin 0 ns ∧ (sum.apply (ns.map .int) s).1 = overflow) := by
  have hreply : (sum.apply (ns.map .int) s).1 =
      sum.orComplain (((ns.map Value.int).foldlM Total.add (.int 0)).map Total.toValue) := by
    rw [fst_apply_of_ne (by decide) (by decide), s.resolveAll_map_int]
    rfl
  rw [hreply]
  rcases foldlM_add_cases 0 ns with ⟨hstays, n, hsum, hn⟩ | ⟨hstays, hsum⟩
  · rw [hsum]
    exact .inl ⟨hstays, n, rfl, hn.trans (Int.zero_add _)⟩
  · rw [hsum]
    exact .inr ⟨hstays, rfl⟩

/-- Sums of integers are exact where their running totals fit. The function returns an integer
exactly if the sum of every beginning of its arguments has 64 bits, and it is the sum of all of them
then; in every other case it reports the overflow, which it does at least where the whole sum does
not fit. Two orders that both give an integer give the same one, arguments of one sign give the same
result in every order, and every sum that fits is returned for some order. -/
theorem sum_of_integers (s : Session F) (ns : List Int64) :
    let result := fun ns : List Int64 => (sum.apply (ns.map .int) s).1
    (∀ n, result ns = .int n ↔ StaysWithin 0 ns ∧ n.toInt = exactSum ns) ∧
    (result ns = overflow ↔ ¬ StaysWithin 0 ns) ∧
    (¬ FitsWord (exactSum ns) → result ns = overflow) ∧
    (∀ ms, ms.Perm ns → ∀ n m, result ns = .int n → result ms = .int m → m = n) ∧
    (OneSigned ns → ∀ ms, ms.Perm ns → result ms = result ns) ∧
    (FitsWord (exactSum ns) → ∃ ms n, ms.Perm ns ∧ result ms = .int n ∧ n.toInt = exactSum ns) := by
  intro result
  have hcases : ∀ ms : List Int64,
      (StaysWithin 0 ms ∧ ∃ n : Int64, result ms = .int n ∧ n.toInt = exactSum ms) ∨
      (¬ StaysWithin 0 ms ∧ result ms = overflow) := apply_sum_cases s
  have hint : ∀ ms n, result ms = .int n ↔ StaysWithin 0 ms ∧ n.toInt = exactSum ms := by
    intro ms n
    rcases hcases ms with ⟨hstays, m, hresult, hm⟩ | ⟨hstays, hresult⟩
    · rw [hresult, Value.int.injEq, ← Int64.toInt_inj, hm]
      exact ⟨fun h => ⟨hstays, h.symm⟩, fun h => h.2.symm⟩
    · rw [hresult]
      exact ⟨nofun, fun h => absurd h.1 hstays⟩
  have hoverflow : ∀ ms, result ms = overflow ↔ ¬ StaysWithin 0 ms := by
    intro ms
    rcases hcases ms with ⟨hstays, m, hresult, -⟩ | ⟨hstays, hresult⟩
    · rw [hresult]
      exact ⟨nofun, fun h => absurd hstays h⟩
    · exact ⟨fun _ => hstays, fun _ => hresult⟩
  refine ⟨hint ns, hoverflow ns, ?_, ?_, ?_, ?_⟩
  · exact fun hfits => (hoverflow ns).mpr fun hstays => hfits hstays.fitsWord
  · intro ms hperm n m hn hm
    rw [← Int64.toInt_inj, ((hint ns n).mp hn).2, ((hint ms m).mp hm).2, exactSum_perm hperm]
  · intro hsigned ms hperm
    have hsame : StaysWithin 0 ms ↔ StaysWithin 0 ns := by
      rw [hsigned.staysWithin_iff, (hsigned.perm hperm).staysWithin_iff, exactSum_perm hperm]
    rcases hcases ns with ⟨hstays, n, hresult, hn⟩ | ⟨hstays, hresult⟩
    · rw [hresult, hint, exactSum_perm hperm]
      exact ⟨hsame.mpr hstays, hn⟩
    · rw [hresult, hoverflow, hsame]
      exact hstays
  · intro hfits
    have hstart : FitsWord 0 := fitsWord_toInt 0
    have hend : FitsWord (0 + exactSum ns) := by rwa [Int.zero_add]
    obtain ⟨ms, hperm, hstays⟩ := exists_perm_staysWithin hstart hend
    rcases hcases ms with ⟨-, n, hresult, hn⟩ | ⟨hleaves, -⟩
    · exact ⟨ms, n, hperm, hresult, hn.trans (exactSum_perm hperm)⟩
    · exact absurd hstays hleaves

/-- Arguments of both signs have their sum in some order, and arguments of one sign have none in any
order if it does not fit. -/
theorem sum_of_integers_near_the_ends :
    let s : Session StandardFunction := { env := environment }
    let mixed : List Int64 := [.maxValue, 1, -1]
    let negative : List Int64 := [.minValue, -1]
    FitsWord (exactSum mixed) ∧
    (∃ (ms : List Int64) (n : Int64), ms.Perm mixed ∧ (sum.apply (ms.map .int) s).1 = .int n ∧
      n.toInt = exactSum mixed) ∧
    ¬ FitsWord (exactSum negative) ∧ (sum.apply (negative.map .int) s).1 = overflow ∧
    OneSigned negative ∧ ∀ ms : List Int64, ms.Perm negative →
      (sum.apply (ms.map .int) s).1 = (sum.apply (negative.map .int) s).1 := by
  intro s mixed negative
  have hfits : FitsWord (exactSum mixed) := by decide
  have hleaves : ¬ FitsWord (exactSum negative) := by decide
  have hsigned : OneSigned negative :=
    .inr (List.forall_mem_cons.mpr ⟨by decide, List.forall_mem_singleton.mpr (by decide)⟩)
  obtain ⟨-, -, -, -, -, hordered⟩ := sum_of_integers s mixed
  obtain ⟨-, -, hoverflow, -, hsame, -⟩ := sum_of_integers s negative
  exact ⟨hfits, hordered hfits, hleaves, hoverflow hleaves, hsigned, hsame hsigned⟩

/-- A sum that fits is not returned where the total leaves the range on the way, and the same
arguments have it in another order. -/
theorem sum_refused_by_order :
    let s : Session StandardFunction := { env := environment }
    let ns : List Int64 := [.maxValue, 1, -1]
    let ms : List Int64 := [.maxValue, -1, 1]
    FitsWord (exactSum ns) ∧ (sum.apply (ns.map .int) s).1 = overflow ∧
    ms.Perm ns ∧ (sum.apply (ms.map .int) s).1 = .int .maxValue :=
  ⟨by decide, rfl, .cons _ (.swap _ _ _), rfl⟩

end StandardFunction

end CallScript
