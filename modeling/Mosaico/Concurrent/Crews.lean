import Mosaico.Transition.Run

/-!
# Parties at explicit program points

A crew is a shared state with parties, each at a program point that is data.  One
step lets a party act: it changes the shared state, moves on to its next point and
may let new parties join.  Where the points themselves have to be counted or
searched, as in `some party will still look`, this is the form to use.
-/

namespace Concurrent

open Transition

/-- The shared state and the program points of the parties, finished ones included. -/
structure Crew (σ π : Type) where
  shared : σ
  parties : List π

/-- What one step of a party does. -/
structure Move (σ π : Type) where
  shared : σ
  next : π
  joining : List π

namespace Crew

variable {σ π ι : Type}

def join (crew : Crew σ π) (party : π) : Crew σ π :=
  { crew with parties := crew.parties ++ [party] }

/-- One step of the party at `index`; nothing if there is none. -/
def advance (act : ι → σ → π → Move σ π) (crew : Crew σ π) (index : Nat) (input : ι) :
    Crew σ π :=
  match crew.parties[index]? with
  | none => crew
  | some party =>
      let move := act input crew.shared party
      ⟨move.shared, crew.parties.set index move.next ++ move.joining⟩

variable {act : ι → σ → π → Move σ π} {crew : Crew σ π} {index : Nat} {input : ι}

theorem advance_of_none (hindex : crew.parties[index]? = none) :
    crew.advance act index input = crew := by
  unfold advance
  rw [hindex]

theorem advance_of_some {party : π} (hindex : crew.parties[index]? = some party) :
    crew.advance act index input =
      ⟨(act input crew.shared party).shared,
        crew.parties.set index (act input crew.shared party).next ++
          (act input crew.shared party).joining⟩ := by
  unfold advance
  rw [hindex]

/-- A party of the next crew was there, or belongs to the move. -/
theorem mem_advance {party other : π} (hindex : crew.parties[index]? = some party)
    (hother : other ∈ (crew.advance act index input).parties) :
    other ∈ crew.parties ∨ other = (act input crew.shared party).next ∨
      other ∈ (act input crew.shared party).joining := by
  rw [advance_of_some hindex] at hother
  rcases List.mem_append.mp hother with hset | hjoining
  · rcases List.mem_or_eq_of_mem_set hset with hold | heq
    · exact Or.inl hold
    · exact Or.inr (Or.inl heq)
  · exact Or.inr (Or.inr hjoining)

/-- A party that does not move stays. -/
theorem mem_advance_of_mem {party other : π} (hindex : crew.parties[index]? = some party)
    (hother : other ∈ crew.parties) :
    other = party ∨ other ∈ (crew.advance act index input).parties := by
  rw [advance_of_some hindex]
  obtain ⟨position, hposition⟩ := List.mem_iff_getElem?.mp hother
  by_cases hsame : index = position
  · left
    rw [hsame, hposition] at hindex
    exact Option.some.inj hindex
  · right
    have hkept : (crew.parties.set index (act input crew.shared party).next)[position]? =
        some other := (List.getElem?_set_ne hsame).trans hposition
    exact List.mem_append_left _ (List.mem_of_getElem? hkept)

theorem next_mem_advance {party : π} (hindex : crew.parties[index]? = some party) :
    (act input crew.shared party).next ∈ (crew.advance act index input).parties := by
  rw [advance_of_some hindex]
  refine List.mem_append_left _ (List.mem_iff_getElem?.mpr ⟨index, ?_⟩)
  obtain ⟨hless, _⟩ := List.getElem?_eq_some_iff.mp hindex
  exact List.getElem?_set_self hless

theorem joining_mem_advance {party other : π} (hindex : crew.parties[index]? = some party)
    (hjoining : other ∈ (act input crew.shared party).joining) :
    other ∈ (crew.advance act index input).parties := by
  rw [advance_of_some hindex]
  exact List.mem_append_right _ hjoining

/-- Positions do not move: the party at a position was there, has just acted, or joined. -/
theorem getElem?_advance {party other : π} (hindex : crew.parties[index]? = some party)
    {position : Nat} (hother : (crew.advance act index input).parties[position]? = some other) :
    crew.parties[position]? = some other ∨
      (position = index ∧ other = (act input crew.shared party).next) ∨
      other ∈ (act input crew.shared party).joining := by
  rw [advance_of_some hindex] at hother
  have hcase := List.getElem?_append.symm.trans hother
  split at hcase
  · by_cases hsame : index = position
    · subst hsame
      obtain ⟨hless, _⟩ := List.getElem?_eq_some_iff.mp hindex
      rw [List.getElem?_set_self hless] at hcase
      exact Or.inr (Or.inl ⟨rfl, (Option.some.inj hcase).symm⟩)
    · rw [List.getElem?_set_ne hsame] at hcase
      exact Or.inl hcase
  · exact Or.inr (Or.inr (List.mem_of_getElem? hcase))

theorem getElem?_join {party other : π} {position : Nat}
    (hother : (crew.join party).parties[position]? = some other) :
    crew.parties[position]? = some other ∨ other = party := by
  have hcase := List.getElem?_append.symm.trans hother
  split at hcase
  · exact Or.inl hcase
  · exact Or.inr (List.mem_singleton.mp (List.mem_of_getElem? hcase))

/-- Each party has a property, in the shared state at hand. -/
def All (crew : Crew σ π) (J : σ → π → Prop) : Prop :=
  ∀ party ∈ crew.parties, J crew.shared party

/-- A party that joins has the property as well. -/
theorem All.join {J : σ → π → Prop} {party : π} (hall : crew.All J)
    (hparty : J crew.shared party) : (crew.join party).All J := by
  intro other hother
  rcases List.mem_append.mp hother with hold | hnew
  · exact hall other hold
  · rw [List.mem_singleton.mp hnew]
    exact hparty

/-- A step keeps a property of all parties when the other parties keep it and the
moving one hands it on. -/
theorem All.advance {J : σ → π → Prop} {party : π} (hall : crew.All J)
    (hindex : crew.parties[index]? = some party)
    (hothers : ∀ other, J crew.shared other → J (act input crew.shared party).shared other)
    (hnext : J crew.shared party →
      J (act input crew.shared party).shared (act input crew.shared party).next)
    (hjoining : J crew.shared party → ∀ other ∈ (act input crew.shared party).joining,
      J (act input crew.shared party).shared other) :
    (crew.advance act index input).All J := by
  have hparty := hall party (List.mem_of_getElem? hindex)
  intro other hother
  have hshared : (crew.advance act index input).shared = (act input crew.shared party).shared := by
    rw [advance_of_some hindex]
  rw [hshared]
  rcases mem_advance hindex hother with hold | rfl | hnew
  · exact hothers other (hall other hold)
  · exact hnext hparty
  · exact hjoining hparty other hnew

/-! ## Counting parties -/

/-- How many parties have a property. -/
def count (crew : Crew σ π) (p : π → Bool) : Nat := crew.parties.countP p

variable {p : π → Bool}

theorem count_pos_iff : 0 < crew.count p ↔ ∃ party ∈ crew.parties, p party = true :=
  List.countP_pos_iff

theorem count_join (party : π) : (crew.join party).count p = crew.count p + (p party).toNat := by
  simp only [count, join, List.countP_append, List.countP_singleton]
  cases p party with
  | true | false => rfl

/-- The moving party is exchanged for its next point and for those that join. -/
theorem count_advance {party : π} (hindex : crew.parties[index]? = some party) :
    (crew.advance act index input).count p + (p party).toNat =
      crew.count p + (p (act input crew.shared party).next).toNat +
        (act input crew.shared party).joining.countP p := by
  obtain ⟨hless, hparty⟩ := List.getElem?_eq_some_iff.mp hindex
  have hcounted : p party = true → 0 < crew.parties.countP p :=
    fun hp => List.countP_pos_iff.mpr ⟨party, List.mem_of_getElem? hindex, hp⟩
  rw [advance_of_some hindex]
  simp only [count, List.countP_append, List.countP_set hless, hparty]
  cases hp : p party with
  | false =>
      cases p (act input crew.shared party).next with
      | false | true => simp
  | true =>
      have hpos := hcounted hp
      cases p (act input crew.shared party).next with
      | false | true =>
          simp
          omega

end Crew

end Concurrent
