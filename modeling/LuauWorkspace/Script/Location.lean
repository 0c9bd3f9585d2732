import LuauWorkspace.Json.Lenient
import LuauWorkspace.Source.Location

/-!
# Positions in scripts

A position is written as the list of its line and column, and a location as the list of the four
numbers of its ends.
-/
namespace LuauWorkspace.Script

def position (json : Json) : Position :=
  match json.naturals with
  | [line, column] => ⟨line, column⟩
  | _ => ⟨0, 0⟩

def location (json : Json) : Location :=
  match json.naturals with
  | [line, column, lastLine, lastColumn] => ⟨⟨line, column⟩, ⟨lastLine, lastColumn⟩⟩
  | _ => ⟨⟨0, 0⟩, ⟨0, 0⟩⟩

def locationAt (json : Json) (name : String) : Location := location (json.field name)

def ofPosition (p : Position) : Json := .list [.nat p.line, .nat p.column]

def ofLocation (l : Location) : Json :=
  .list [.nat l.start.line, .nat l.start.column, .nat l.stop.line, .nat l.stop.column]

theorem position_ofPosition (p : Position) : position (ofPosition p) = p := by
  simp [position, ofPosition, Json.naturals, Json.items, Json.natural, Json.integer, Json.nat]

theorem location_ofLocation (l : Location) : location (ofLocation l) = l := by
  simp [location, ofLocation, Json.naturals, Json.items, Json.natural, Json.integer, Json.nat]

end LuauWorkspace.Script
