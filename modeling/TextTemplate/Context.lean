import TextTemplate.Error

/-!
# Contexts

A context gives values to the variables of a template. It can be built variable by variable, or at
once from a JSON object or from program data whose document is an object.

## Main definitions

* `Context`: the values of variables.
* `Context.ofValue`, `Context.ofJson`, `Context.ofData`: contexts from maps.
* `Context.beq`: equality of contexts.
-/

namespace TextTemplate

/-- The values of variables. -/
abbrev Context := Bindings Value

namespace Context

/-- The context of the entries of a map. Other values are no contexts. -/
def ofValue : Value → Except Error Context
  | .map entries => .ok (Bindings.ofList entries)
  | v => .error (.context s!"expected a map of variables, found {v.kind.name}")

/-- The context of the members of a JSON object. -/
def ofJson (j : Json) : Except Error Context :=
  ofValue (Value.ofJson j)

/-- The context of program data. -/
def ofData (d : Data) : Except Error Context :=
  match d.toJson with
  | .ok j => ofJson j
  | .error cause => .error (.data cause)

/-- Equality of contexts: the same variables have equal values. -/
def beq (a b : Context) : Bool :=
  Value.beqEntries a.entries b.entries

end Context

end TextTemplate
