import Patchwork.Value

/-!
# Management policies

A management policy gates which lifecycle actions may reach the external resource.  It is made
of two independent grants: to write (create and update) and to remove (delete).  A policy that
is not recognised grants nothing.

* `PolicyDecision.evaluate` answers one question with the policy, the action and the verdict.
* `PolicyDecision.table` lists all answers for the recognised policies.
-/

set_option autoImplicit false

namespace Patchwork

/-- What may be done with the external resource. -/
inductive ManagementPolicy where
  | default
  | observeCreateUpdate
  | observeDelete
  | observe
  | unknown
  deriving DecidableEq, Repr, Inhabited

namespace ManagementPolicy

/-- The name of a policy. -/
def text : ManagementPolicy → String
  | .default => "Default"
  | .observeCreateUpdate => "ObserveCreateUpdate"
  | .observeDelete => "ObserveDelete"
  | .observe => "Observe"
  | .unknown => "Unknown"

/-- The recognised policies. -/
def known : List ManagementPolicy := [.default, .observeCreateUpdate, .observeDelete, .observe]

/-- The recognised policy of a name, or `unknown`. -/
def ofText (name : Text) : ManagementPolicy :=
  (known.find? fun p => (p.text : Text) = name).getD .unknown

/-- The policy that a value names; only a text names one. -/
def ofValue : Value → ManagementPolicy
  | .str name => ofText name
  | _ => .unknown

/-- The policy lets the external resource be created and updated. -/
def mayWrite : ManagementPolicy → Bool
  | .default | .observeCreateUpdate => true
  | _ => false

/-- The policy lets the external resource be deleted. -/
def mayRemove : ManagementPolicy → Bool
  | .default | .observeDelete => true
  | _ => false

end ManagementPolicy

/-- What can be done to the external resource. -/
inductive ObjectAction where
  | create
  | update
  | delete
  deriving DecidableEq, Repr, Inhabited

namespace ObjectAction

/-- The name of an action. -/
def text : ObjectAction → String
  | .create => "Create"
  | .update => "Update"
  | .delete => "Delete"

/-- All actions. -/
def all : List ObjectAction := [.create, .update, .delete]

/-- The action of a name. -/
def ofText? (name : Text) : Option ObjectAction := all.find? fun a => (a.text : Text) = name

/-- The action that a value names. -/
def ofValue? : Value → Option ObjectAction
  | .str name => ofText? name
  | _ => none

end ObjectAction

/-- The policy grants the action. -/
def ManagementPolicy.allows (policy : ManagementPolicy) : ObjectAction → Bool
  | .create | .update => policy.mayWrite
  | .delete => policy.mayRemove

/-- The answer to whether an action is allowed; the action is absent when it is not one. -/
structure PolicyDecision where
  policy : ManagementPolicy
  action : Option ObjectAction
  allowed : Bool
  deriving DecidableEq, Repr

namespace PolicyDecision

/-- The answer in words. -/
def reason (d : PolicyDecision) : String :=
  match d.action with
  | none => "unknown action is never allowed"
  | some action =>
    "policy " ++ d.policy.text ++ (if d.allowed then " allows " else " denies ") ++ action.text

/-- The decision on an action, absent when it is not one, under a policy. -/
def make (policy : ManagementPolicy) (action : Option ObjectAction) : PolicyDecision :=
  ⟨policy, action, action.any policy.allows⟩

/-- The decision on the action that a value names under the policy that a value names. -/
def evaluate (policy action : Value) : PolicyDecision :=
  make (.ofValue policy) (ObjectAction.ofValue? action)

/-- All decisions for the recognised policies, policy by policy. -/
def table : List PolicyDecision :=
  ManagementPolicy.known.flatMap fun policy =>
    ObjectAction.all.map fun action => make policy (some action)

end PolicyDecision
end Patchwork
