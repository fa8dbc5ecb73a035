import Mathlib.Tactic.Common

/-!
# Messages sent in fragments

A sender may cut a message into fragments.  The first one carries the tag of the
message, the others carry none, and the last one is marked as final.

`reassemble` is a receiver of fragments in order: it keeps the messages that are
complete and the one under way, and has nothing to say about a fragment that fits
neither rule.  `reassemble_concat` follows it over one more fragment;
`Inbox.accept_first` and `Inbox.accept_next` are the two fragments a receiver takes.
-/

namespace Reassembly

variable {Tag α : Type*}

structure Fragment (Tag α : Type*) where
  /-- The tag, on the first fragment of a message. -/
  opens : Option Tag
  final : Bool
  payload : List α

structure Inbox (Tag α : Type*) where
  done : List (Tag × List α)
  current : Option (Tag × List α)

namespace Inbox

/-- The message under way once the fragment is added to it. -/
def joined (inbox : Inbox Tag α) (fragment : Fragment Tag α) : Option (Tag × List α) :=
  match inbox.current, fragment.opens with
  | none, some tag => some (tag, fragment.payload)
  | some (tag, data), none => some (tag, data ++ fragment.payload)
  | none, none => none
  | some _, some _ => none

def keep (inbox : Inbox Tag α) (final : Bool) (message : Tag × List α) : Inbox Tag α :=
  if final then ⟨inbox.done ++ [message], none⟩ else ⟨inbox.done, some message⟩

def accept (inbox : Inbox Tag α) (fragment : Fragment Tag α) : Option (Inbox Tag α) :=
  (inbox.joined fragment).map (inbox.keep fragment.final)

theorem accept_first {inbox : Inbox Tag α} (hcurrent : inbox.current = none) (tag : Tag)
    (final : Bool) (payload : List α) :
    inbox.accept ⟨some tag, final, payload⟩ = some (inbox.keep final (tag, payload)) := by
  rw [accept, joined, hcurrent]
  rfl

theorem accept_next {inbox : Inbox Tag α} {tag : Tag} {data : List α}
    (hcurrent : inbox.current = some (tag, data)) (final : Bool) (payload : List α) :
    inbox.accept ⟨none, final, payload⟩ = some (inbox.keep final (tag, data ++ payload)) := by
  rw [accept, joined, hcurrent]
  rfl

end Inbox

def reassemble (fragments : List (Fragment Tag α)) : Option (Inbox Tag α) :=
  fragments.foldlM Inbox.accept ⟨[], none⟩

theorem reassemble_concat (fragments : List (Fragment Tag α)) (fragment : Fragment Tag α) :
    reassemble (fragments ++ [fragment]) =
      (reassemble fragments).bind fun inbox => inbox.accept fragment := by
  unfold reassemble
  rw [List.foldlM_append]
  simp only [List.foldlM_cons, List.foldlM_nil]
  exact congrArg _ (funext fun inbox => bind_pure (inbox.accept fragment))

end Reassembly
