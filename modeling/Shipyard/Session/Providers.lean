import Shipyard.Text.White
import Shipyard.Text.Split
/-!
# Identity providers

Providers are configured as `name=id` entries separated by commas. Blank entries are skipped;
an entry needs a non-blank name and id, both taken without surrounding white space. A name given
twice keeps its last id; the providers are kept in name order.
-/
namespace Shipyard.Session

open Shipyard.Text

/-- Inserts a provider into a list in name order, replacing one of the same name. -/
def insertProvider (name id : String) : List (String × String) → List (String × String)
  | [] => [(name, id)]
  | (n, i) :: rest =>
    if name == n then (name, id) :: rest
    else if name < n then (name, id) :: (n, i) :: rest
    else (n, i) :: insertProvider name id rest

/-- One entry's provider. -/
def providerEntry (entry : String) : Except String (String × String) :=
  match splitOnce entry "=" with
  | some (n, i) =>
    if !(trimWhite n).isEmpty && !(trimWhite i).isEmpty then .ok (trimWhite n, trimWhite i)
    else .error ("invalid identity provider entry '" ++ entry ++ "'")
  | none => .error ("invalid identity provider entry '" ++ entry ++ "'")

/-- The providers of a configuration text. -/
def parseProviders (spec : String) : Except String (List (String × String)) :=
  let entries := ((spec.splitOn ",").map trimWhite).filter (!·.isEmpty)
  entries.foldlM (fun acc e => do let (n, i) ← providerEntry e; pure (insertProvider n i acc)) []

end Shipyard.Session
