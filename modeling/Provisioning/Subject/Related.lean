import Provisioning.Subject.Basic

/-!
# Holders related to a subject

A user reaches itself, its memberships and their roles; a membership reaches itself and its role; a
role reaches only itself. The same holders are reached for reading, as a list, and for changing
their attributes, by kind and key; of several with one key the first is changed.
-/

namespace Provisioning

namespace Subject

/-- The holders of a kind that a subject reaches. -/
def related (s : Subject) (kind : SubjectKind) : List Holder :=
  match s, kind with
  | .user u, .user => [u.holder]
  | .user u, .role => u.roles.map Role.holder
  | .user u, .membership => u.memberships.map Membership.holder
  | .role r, .role => [r.holder]
  | .membership m, .membership => [m.holder]
  | .membership m, .role => [m.role.holder]
  | _, _ => []

/-- Changes the first item that satisfies a condition, if one does. -/
def changeFirst {α : Type} (p : α → Bool) (f : α → α) : List α → Option (List α)
  | [] => none
  | x :: xs => if p x then some (f x :: xs) else (changeFirst p f xs).map (x :: ·)

/-- Changes the attributes of the first holder of a kind with a key, if there is one. -/
def changeAttributes (s : Subject) (kind : SubjectKind) (key : SubjectKey)
    (f : Attributes → Attributes) : Option Subject :=
  let ofRole (r : Role) : Role := { r with attributes := f r.attributes }
  match s, kind with
  | .user u, .user =>
    if u.key = key then some (.user { u with attributes := f u.attributes }) else none
  | .user u, .role =>
    (changeFirst (fun m => m.role.key == key) (fun m => { m with role := ofRole m.role })
      u.memberships).map fun ms => .user { u with memberships := ms }
  | .user u, .membership =>
    (changeFirst (fun m => m.key == key) (fun m => { m with attributes := f m.attributes })
      u.memberships).map fun ms => .user { u with memberships := ms }
  | .role r, .role => if r.key = key then some (.role (ofRole r)) else none
  | .membership m, .membership =>
    if m.key = key then some (.membership { m with attributes := f m.attributes }) else none
  | .membership m, .role =>
    if m.role.key = key then some (.membership { m with role := ofRole m.role }) else none
  | _, _ => none

/-- The attributes of the first holder of a kind with a key. -/
def attributes? (s : Subject) (kind : SubjectKind) (key : SubjectKey) : Option Attributes :=
  ((s.related kind).find? fun h => h.key == key).map Holder.attributes

end Subject

end Provisioning
