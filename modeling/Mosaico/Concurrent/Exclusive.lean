import Mathlib.Data.List.Basic

/-!
# A lock that its holder drops when it ends

The parties of a pool share one lock.  Each party is in a phase, and some phases hold
the lock.  `Exclusive` says that the lock knows its holder; each move of a party either
takes the free lock, drops the lock it holds, or changes nothing about it.  New parties
join without the lock.
-/

namespace Concurrent

variable {P : Type*} {holds : P → Prop} {lock : Option Nat} {parties : List P}

/-- The parties in a phase that holds the lock are those the lock knows. -/
def Exclusive (holds : P → Prop) (lock : Option Nat) (parties : List P) : Prop :=
  ∀ index party, parties[index]? = some party → (holds party ↔ lock = some index)

/-- The holder that the lock knows is one of the parties. -/
def Listed (lock : Option Nat) (parties : List P) : Prop :=
  ∀ index, lock = some index → index < parties.length

namespace Exclusive

theorem empty : Exclusive holds none [] := by
  intro index party hparty
  simp at hparty

/-- Two holders are one. -/
theorem unique (hexclusive : Exclusive holds lock parties) {first second : Nat}
    {firstParty secondParty : P} (hfirst : parties[first]? = some firstParty)
    (hsecond : parties[second]? = some secondParty) (hholdsFirst : holds firstParty)
    (hholdsSecond : holds secondParty) : first = second := by
  have hlock := (hexclusive first firstParty hfirst).mp hholdsFirst
  rw [(hexclusive second secondParty hsecond).mp hholdsSecond] at hlock
  exact (Option.some.inj hlock).symm

/-- Nobody else holds the lock while one party does. -/
theorem not_holds_of_ne (hexclusive : Exclusive holds lock parties) {first second : Nat}
    {firstParty secondParty : P} (hfirst : parties[first]? = some firstParty)
    (hsecond : parties[second]? = some secondParty) (hholds : holds firstParty)
    (hne : second ≠ first) : ¬ holds secondParty :=
  fun hother => hne (hexclusive.unique hsecond hfirst hother hholds)

/-- A move that leaves the lock alone. -/
theorem keep (hexclusive : Exclusive holds lock parties) {index : Nat} {before after : P}
    (hbefore : parties[index]? = some before) (hsame : holds after ↔ holds before) :
    Exclusive holds lock (parties.set index after) := by
  intro other party hparty
  rw [List.getElem?_set] at hparty
  split at hparty
  · next heq =>
      subst heq
      split at hparty
      · cases hparty
        exact hsame.trans (hexclusive index before hbefore)
      · cases hparty
  · exact hexclusive other party hparty

/-- A move that takes the free lock. -/
theorem acquire (hexclusive : Exclusive holds none parties) {index : Nat} {after : P}
    (hafter : holds after) : Exclusive holds (some index) (parties.set index after) := by
  intro other party hparty
  rw [List.getElem?_set] at hparty
  split at hparty
  · next heq =>
      subst heq
      split at hparty
      · cases hparty
        exact iff_of_true hafter rfl
      · cases hparty
  · next hne =>
      have hfree : ¬ holds party := fun hholds => by
        cases (hexclusive other party hparty).mp hholds
      exact iff_of_false hfree (fun heq => hne (Option.some.inj heq))

/-- A move that drops the lock, when its holder ends too. -/
theorem release {index : Nat} (hexclusive : Exclusive holds (some index) parties) {after : P}
    (hafter : ¬ holds after) : Exclusive holds none (parties.set index after) := by
  intro other party hparty
  rw [List.getElem?_set] at hparty
  split at hparty
  · next heq =>
      subst heq
      split at hparty
      · cases hparty
        exact iff_of_false hafter (fun hlock => by cases hlock)
      · cases hparty
  · next hne =>
      have hfree : ¬ holds party := fun hholds =>
        hne (Option.some.inj ((hexclusive other party hparty).mp hholds))
      exact iff_of_false hfree (fun hlock => by cases hlock)

/-- A new party joins without the lock. -/
theorem join (hexclusive : Exclusive holds lock parties) (hlisted : Listed lock parties)
    {party : P} (hparty : ¬ holds party) : Exclusive holds lock (parties ++ [party]) := by
  intro other found hfound
  rcases Nat.lt_or_ge other parties.length with hlt | hge
  · rw [List.getElem?_append_left hlt] at hfound
    exact hexclusive other found hfound
  · rw [List.getElem?_append_right hge] at hfound
    have hnew : found = party := by
      rcases hoffset : other - parties.length with _ | offset
      · rw [hoffset] at hfound
        exact (Option.some.inj hfound).symm
      · rw [hoffset] at hfound
        simp at hfound
    refine iff_of_false (hnew ▸ hparty) (fun hlock => ?_)
    exact absurd (hlisted other hlock) (Nat.not_lt.mpr hge)

end Exclusive

namespace Listed

theorem of_length_le {after : List P} (hlisted : Listed lock parties)
    (hlength : parties.length ≤ after.length) : Listed lock after :=
  fun index hlock => Nat.lt_of_lt_of_le (hlisted index hlock) hlength

theorem none : Listed Option.none parties := fun _ hlock => by cases hlock

theorem some {index : Nat} (hlt : index < parties.length) : Listed (Option.some index) parties :=
  fun _ hlock => Option.some.inj hlock ▸ hlt

end Listed

end Concurrent
