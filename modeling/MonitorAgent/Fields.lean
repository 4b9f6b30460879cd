/-!
# Fields

What a threshold is decided on and a template is filled from: texts with names.
-/

namespace MonitorAgent

/-- Named texts.  The first entry of a name counts. -/
abbrev Fields :=
  List (String × String)

namespace Fields

/-- The text of a field, empty where there is none. -/
def text (fields : Fields) (name : String) : String :=
  (fields.lookup name).getD ""

/-- The later fields, where they are not overridden by the earlier ones. -/
def override (own fields : Fields) : Fields :=
  own ++ fields

end Fields
end MonitorAgent
