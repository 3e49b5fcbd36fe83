import ListWindow.Screen.Paint
import ListWindow.Text.Columns

/-!
A made-up list of customers, and how each is shown as a row of a table.
-/
namespace ListWindow.Demo

open ListWindow.Screen (Rgb Row Style)
open ListWindow.Text (Columns)

structure Customer where
  id : Nat
  name : String
  city : String
  balance : Int
  deriving DecidableEq, Repr, Inhabited

def sixDigits (n : Nat) : String :=
  let digits := toString n
  String.ofList (List.replicate (6 - digits.length) '0') ++ digits

def cities : List String := ["Lisbon", "Osaka", "Nairobi", "Quito", "Tallinn", "Perth"]

def Customer.ofId (id : Nat) : Customer :=
  { id
    name := "customer-" ++ sixDigits id
    city := cities.getD (id % 6) ""
    balance := ((id * 7919 % 20000 : Nat) : Int) - 10000 }

def customers (count : Nat) : Array Customer := (Array.range count).map Customer.ofId

def columns : Columns :=
  { columns := [⟨"#", 8⟩, ⟨"name", 18⟩, ⟨"city", 10⟩, ⟨"balance", 10⟩] }

/-- Every second row has a darker ground, and debts are red. -/
def rowStyle (index : Nat) (c : Customer) : Style :=
  { background := if index % 2 = 0 then some ⟨24, 24, 32⟩ else none
    foreground := some (if c.balance < 0 then ⟨230, 110, 110⟩ else ⟨210, 210, 210⟩) }

def rowText (t : Columns) (c : Customer) : String :=
  t.format [toString c.id, c.name, c.city, toString c.balance]

def rowOf (index : Nat) (c : Customer) : Row :=
  { text := rowText columns c, style := rowStyle index c }

end ListWindow.Demo
