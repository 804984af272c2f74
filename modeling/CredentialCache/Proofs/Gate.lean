import Mathlib.Data.List.Chain
import Mathlib.Tactic.Linarith
import CredentialCache.Store.Gate
/-!
# Throttling by a sweep gate

A gate tried at a sequence of readings admits a reading exactly when it is at least one interval
after the last admitted one, so long as no difference it takes wraps around the 64-bit range.
The gate's whole state is then the latest admitted reading, the admitted readings climb by at
least an interval at a time, and a window of readings of width `w` holds at most `w / I + 1` of
them, whatever the order of the readings tried.
-/

namespace CredentialCache

def Clock.IsWord (x : Int) : Prop := -2 ^ 63 ≤ x ∧ x < 2 ^ 63

theorem Clock.isWord_iff {x : Int} :
    Clock.IsWord x ↔ -9223372036854775808 ≤ x ∧ x < 9223372036854775808 := by
  have hw : (2 : Int) ^ 63 = 9223372036854775808 := rfl
  rw [IsWord, hw]

theorem Clock.wrapWord_of_isWord {x : Int} (h : Clock.IsWord x) : Clock.wrapWord x = x := by
  have hm : Nat.pow 2 64 = 18446744073709551616 := rfl
  rw [isWord_iff] at h
  unfold Clock.wrapWord
  rw [hm]
  apply Int.bmod_eq_of_le <;> omega

namespace SweepGate

/-- The gate after each reading is tried in turn; a refused reading leaves it as it was. -/
def afterAll (g : SweepGate) : List Int → SweepGate
  | [] => g
  | n :: ns => ((g.tryAcquire n).getD g).afterAll ns

def admitted (g : SweepGate) : List Int → List Int
  | [] => []
  | n :: ns =>
    match g.tryAcquire n with
    | some g' => n :: g'.admitted ns
    | none => g.admitted ns

def latest (g : SweepGate) (ns : List Int) : Int := (g.admitted ns).getLast?.getD g.last

/-- No difference the gate takes along a run of readings leaves the 64-bit range. -/
def NoWrap (g : SweepGate) : List Int → Prop
  | [] => True
  | n :: ns => Clock.IsWord (n - g.last) ∧ ((g.tryAcquire n).getD g).NoWrap ns

variable {g g' : SweepGate} {n : Int} {ns : List Int}

theorem eq_of_tryAcquire_eq_some (h : g.tryAcquire n = some g') : g' = { g with last := n } :=
  (tryAcquire_eq_some_iff.1 h).2

theorem create_eq_ok {I : Int} (h : SweepGate.create I = .ok g) : g.interval = I ∧ g.last = 0 := by
  unfold create at h
  split at h
  · cases h
    exact ⟨rfl, rfl⟩
  · cases h

private theorem tryAcquire_isSome_iff (h : Clock.IsWord (n - g.last)) :
    (g.tryAcquire n).isSome ↔ g.interval ≤ n - g.last := by
  rw [← Clock.wrapWord_of_isWord h]
  cases hg : g.tryAcquire n with
  | some g' => simpa using (tryAcquire_eq_some_iff.1 hg).1
  | none => simpa using tryAcquire_eq_none_iff.1 hg

theorem admitted_cons :
    g.admitted (n :: ns) = match g.tryAcquire n with
      | some g' => n :: g'.admitted ns
      | none => g.admitted ns := rfl

private theorem noWrap_append (ns ns' : List Int) :
    g.NoWrap (ns ++ ns') ↔ g.NoWrap ns ∧ (g.afterAll ns).NoWrap ns' := by
  induction ns generalizing g with
  | nil => simp [NoWrap, afterAll]
  | cons n ns ih => simp [NoWrap, afterAll, ih, and_assoc]

theorem afterAll_eq (g : SweepGate) (ns : List Int) :
    g.afterAll ns = { g with last := g.latest ns } := by
  induction ns generalizing g with
  | nil => rfl
  | cons n ns ih =>
    cases hg : g.tryAcquire n with
    | some g' =>
      obtain rfl := eq_of_tryAcquire_eq_some hg
      simp [afterAll, hg, ih, latest, admitted_cons, List.getLast?_cons]
    | none => simp [afterAll, hg, ih, latest, admitted_cons]

/-- Along a run that never wraps, a reading is admitted exactly when it is an interval past the
latest reading admitted before it. -/
theorem tryAcquire_afterAll_isSome_iff {pre post : List Int} (h : g.NoWrap (pre ++ n :: post)) :
    ((g.afterAll pre).tryAcquire n).isSome ↔ g.interval ≤ n - g.latest pre := by
  have hn := ((noWrap_append pre (n :: post)).1 h).2.1
  rw [afterAll_eq] at hn ⊢
  exact tryAcquire_isSome_iff hn

theorem noWrap_of_inRange (hg : Instant.InRange g.last) (hns : ∀ n ∈ ns, Instant.InRange n) :
    g.NoWrap ns := by
  induction ns generalizing g with
  | nil => trivial
  | cons n ns ih =>
    have hn := hns n (by simp)
    refine ⟨?_, ih ?_ fun m hm => hns m (by simp [hm])⟩
    · unfold Instant.InRange Instant.minMs Instant.maxMs at hg hn
      rw [Clock.isWord_iff]
      omega
    · cases hgn : g.tryAcquire n with
      | some g' => rw [eq_of_tryAcquire_eq_some hgn]; exact hn
      | none => exact hg

private theorem le_of_mem_admitted (h : g.NoWrap ns) {x : Int} (hx : x ∈ g.admitted ns) :
    g.last + g.interval ≤ x := by
  induction ns generalizing g with
  | nil => simp [admitted] at hx
  | cons n ns ih =>
    obtain ⟨hn, hrest⟩ := h
    cases hg : g.tryAcquire n with
    | some g' =>
      have hle : g.interval ≤ n - g.last := (tryAcquire_isSome_iff hn).1 (by simp [hg])
      obtain rfl := eq_of_tryAcquire_eq_some hg
      simp only [admitted_cons, hg, List.mem_cons] at hx
      rcases hx with rfl | hx
      · omega
      · have hx' := ih (by simpa [hg] using hrest) hx
        have hpos := g.interval_pos
        dsimp only at hx'
        omega
    | none =>
      simp only [admitted_cons, hg] at hx
      exact ih (by simpa [hg] using hrest) hx

theorem pairwise_admitted (h : g.NoWrap ns) :
    (g.admitted ns).Pairwise fun a b => a + g.interval ≤ b := by
  induction ns generalizing g with
  | nil => simp [admitted]
  | cons n ns ih =>
    obtain ⟨-, hrest⟩ := h
    cases hg : g.tryAcquire n with
    | some g' =>
      obtain rfl := eq_of_tryAcquire_eq_some hg
      have hrest' : NoWrap { g with last := n } ns := by simpa [hg] using hrest
      simp only [admitted_cons, hg, List.pairwise_cons]
      exact ⟨fun x hx => le_of_mem_admitted hrest' hx, ih hrest'⟩
    | none =>
      simp only [admitted_cons, hg]
      exact ih (by simpa [hg] using hrest)

theorem isChain_admitted (h : g.NoWrap ns) :
    (g.last :: g.admitted ns).IsChain fun a b => a + g.interval ≤ b := by
  apply List.Pairwise.isChain
  rw [List.pairwise_cons]
  exact ⟨fun x hx => le_of_mem_admitted h hx, pairwise_admitted h⟩

private theorem length_mul_le_of_pairwise {I x hi : Int} {l : List Int}
    (hp : (x :: l).Pairwise fun a b => a + I ≤ b) (hle : ∀ y ∈ x :: l, y ≤ hi) :
    (l.length : Int) * I ≤ hi - x := by
  induction l generalizing x with
  | nil => simpa using hle x (by simp)
  | cons y l ih =>
    have hxy : x + I ≤ y := List.rel_of_pairwise_cons hp (by simp)
    have hy := ih (List.Pairwise.of_cons hp) (fun z hz => hle z (List.mem_cons_of_mem x hz))
    rw [List.length_cons]
    push_cast
    linarith

/-- Readings pairwise at least `I` apart fill a window `[lo, hi]` at most `(hi - lo) / I + 1`
times. -/
theorem countP_window_le_of_pairwise {I : Int} (hI : 0 < I) {l : List Int}
    (hp : l.Pairwise fun a b => a + I ≤ b) (lo hi : Int) :
    l.countP (fun x => lo ≤ x ∧ x ≤ hi) ≤ ((hi - lo) / I + 1).toNat := by
  rw [List.countP_eq_length_filter]
  have hpf := hp.filter (fun x => decide (lo ≤ x ∧ x ≤ hi))
  have hin : ∀ x ∈ l.filter (fun x => decide (lo ≤ x ∧ x ≤ hi)), lo ≤ x ∧ x ≤ hi := by
    intro x hx
    simpa using (List.mem_filter.1 hx).2
  generalize l.filter (fun x => decide (lo ≤ x ∧ x ≤ hi)) = w at hpf hin ⊢
  cases w with
  | nil => simp
  | cons x w =>
    have hlen := length_mul_le_of_pairwise hpf (fun y hy => (hin y hy).2)
    have hlo := (hin x (by simp)).1
    have hdiv : (w.length : Int) ≤ (hi - lo) / I := by
      rw [Int.le_ediv_iff_mul_le hI]
      linarith
    generalize (hi - lo) / I = q at hdiv
    simp only [List.length_cons]
    omega

end SweepGate

end CredentialCache
