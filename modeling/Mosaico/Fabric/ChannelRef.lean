import Mathlib.Data.List.TakeWhile
import Mosaico.Fabric.Relay

/-!
# Channel references

The agent-facing path of a channel: the durable id of its root channel followed
by the names of its descendants.  References are built for every channel, also
for those whose ancestry is incomplete, and two channels may share one.
-/

namespace Mosaico

open Relational

def maxChannelRefDepth : Nat := 32

def formatChannelRef (workspace : String) (descendants : List String) : String :=
  descendants.foldl (fun reference descendant => reference ++ "/" ++ descendant)
    ("/" ++ workspace)

/-- `str::rsplit_once('/')`. -/
def rsplitOnce (text : String) : Option (String × String) :=
  let reversed := text.toList.reverse
  match reversed.dropWhile (· ≠ '/') with
  | [] => none
  | _ :: front => some (String.ofList front.reverse,
      String.ofList (reversed.takeWhile (· ≠ '/')).reverse)

/-- The text is cut at its last slash. -/
theorem rsplitOnce_eq_some_iff {text front last : String} :
    rsplitOnce text = some (front, last) ↔ text = front ++ "/" ++ last ∧ '/' ∉ last.toList := by
  have htext : text = front ++ "/" ++ last ↔
      text.toList.reverse = last.toList.reverse ++ '/' :: front.toList.reverse := by
    rw [← String.toList_inj, ← List.reverse_inj]
    simp
  have hpass : ∀ c ∈ last.toList.reverse, '/' ∉ last.toList → decide (c ≠ '/') = true := by
    intro c hc hslash
    rw [decide_eq_true_eq]
    rintro rfl
    exact hslash (List.mem_reverse.mp hc)
  rw [rsplitOnce, htext]
  constructor
  · intro hsplit
    split at hsplit
    · cases hsplit
    · rename_i c rest hdrop
      rw [Option.some.injEq, Prod.mk.injEq] at hsplit
      obtain ⟨rfl, rfl⟩ := hsplit
      -- the first letter that is not passed is a slash
      have hhead := List.head?_dropWhile_not (fun c => decide (c ≠ '/')) text.toList.reverse
      rw [hdrop] at hhead
      have hc : c = '/' := by simpa using hhead
      subst hc
      rw [String.toList_ofList, String.toList_ofList, List.reverse_reverse, List.reverse_reverse,
        ← hdrop, List.takeWhile_append_dropWhile]
      refine ⟨rfl, ?_⟩
      intro hslash
      have hkept := List.mem_takeWhile_imp (List.mem_reverse.mp hslash)
      exact absurd rfl (decide_eq_true_eq.mp hkept)
  · rintro ⟨hreverse, hslash⟩
    rw [hreverse, List.dropWhile_append_of_pos (fun c hc => hpass c hc hslash),
      List.dropWhile_cons_of_neg (by decide),
      List.takeWhile_append_of_pos (fun c hc => hpass c hc hslash),
      List.takeWhile_cons_of_neg (by decide)]
    simp

namespace Database

/-- Follow the parent links from `cur`; `parts` are the names passed so far, the
last one first. -/
def refWalk (db : Database) (channelH : String) : Nat → String → List String →
    String × List String
  | 0, _, parts => (channelH, parts)
  | fuel + 1, cur, parts =>
      match db.getChannel cur with
      | none => if parts = [] then (channelH, []) else (channelH, cur :: parts)
      | some channel =>
          if channel.parent = "" then (channel.channelH, parts)
          else db.refWalk channelH fuel channel.parent
            (channel.humanName.getD channel.channelH :: parts)

def fullChannelRef (db : Database) (channelH : String) : String :=
  let (workspace, parts) := db.refWalk channelH maxChannelRefDepth channelH []
  formatChannelRef workspace parts

end Database

end Mosaico
