import Shipyard.Schema.Basic
/-!
# Repositories as the version-control host reports them

An installation of the platform's app on a host account covers some repositories; the host
names each by a numeric id and its full name (`owner/name`), says whether it is private and
perhaps its default branch.
-/
namespace Shipyard.Vcs

/-- A repository as the host reports it. -/
structure HostRepository where
  id : Int
  fullName : String
  isPrivate : Bool := false
  defaultBranch : Option String := none
  deriving Repr, DecidableEq

namespace HostRepository

def schema : Schema :=
  .record "InstalledRepository"
    [Schema.req "id" (.int 64), Schema.req "full_name" .string,
     Schema.opt "private" .bool (.bool false), Schema.opt "default_branch" (.option .string) .null]

/-- A repository from a value that matches `schema`. -/
def ofJson (j : Json) : HostRepository :=
  { id := ((j.field? "id").bind Json.int?).getD 0, fullName := (j.fieldStr? "full_name").getD "",
    isPrivate := ((j.field? "private").bind Json.bool?).getD false,
    defaultBranch := j.fieldStr? "default_branch" }

def toJson (r : HostRepository) : Json :=
  .obj [("id", .ofInt r.id), ("full_name", .str r.fullName), ("private", .bool r.isPrivate),
        ("default_branch", match r.defaultBranch with | some b => .str b | none => .null)]

end HostRepository

end Shipyard.Vcs
