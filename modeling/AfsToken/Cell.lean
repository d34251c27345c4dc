import AfsToken.Text.Casing.Basic

/-!
# Cells

A cell is known by its name and by the Kerberos realm that issues tickets for it.  The name is in
lower case.  Where no realm is given, it is the name in upper case.  The service principal of a cell
and the description of its key are built from the two.
-/

namespace AfsToken

open AfsToken.Text

/-- An AFS cell with its realm. -/
structure Cell where
  name : String
  realm : String
  deriving DecidableEq, Repr

namespace Cell

/-- The service that a ticket for a cell is for. -/
def serviceName : String := "afs"

/-- The cell of a name, with a realm or without one. -/
def make (name : String) (realm : Option String) : Cell :=
  let folded := Casing.lower name
  ⟨folded, realm.getD (Casing.upper folded)⟩

/-- The components of the service name. -/
def service (cell : Cell) : List String := [serviceName, cell.name]

/-- The service principal. -/
def principal (cell : Cell) : String := serviceName ++ "/" ++ cell.name ++ "@" ++ cell.realm

/-- The description under which the key of the cell is stored. -/
def keyDescription (cell : Cell) : String := serviceName ++ "@" ++ cell.name

/-- Whether a text can name a cell: it is not empty and has neither of the separators of a
principal. -/
def isName (text : String) : Bool :=
  text != "" && text.toList.all fun c ↦ c != '/' && c != '@'

/-- Whether a text can name a realm: it is not empty and does not contain the separator in front of
a realm. -/
def isRealm (text : String) : Bool := text != "" && text.toList.all (· != '@')

end Cell

end AfsToken
