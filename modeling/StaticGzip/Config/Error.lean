/-! # Configuration errors

A configuration fails because a file cannot be understood, because a value has the wrong type, or
because a section has the wrong shape. -/

namespace StaticGzip

/-- A **configuration error**: a value of the wrong type, with what was found and expected, the key
and the source; another mismatch in words; or a file that cannot be understood. -/
inductive ConfigError where
  | type (found expected : String) (key : Option String) (origin : Option String)
  | message (words : String)
  | unreadable (origin : String)
deriving DecidableEq, Repr

namespace ConfigError

/-- A key and a source, where they are known. -/
def place (key origin : Option String) : String :=
  (match key with | some k => s!" for key \x60{k}\x60" | none => "")
    ++ (match origin with | some o => s!" in {o}" | none => "")

/-- The wording of a configuration error. -/
def text : ConfigError → String
  | type found expected key origin =>
    s!"invalid type: {found}, expected {expected}{place key origin}"
  | message words => words
  | unreadable origin => s!"cannot parse {origin}"

/-- The error one level further out: a part of the key is put in front of it. -/
def within (part : String) : ConfigError → ConfigError
  | type found expected key origin =>
    let key := match key with
      | none => part
      | some k => if k.toList.head? = some '[' then part ++ k else s!"{part}.{k}"
    type found expected (some key) origin
  | e => e

/-- Words are not changed by the place where they arise. -/
@[simp] theorem within_message (part words : String) :
    (message words).within part = message words := rfl

end ConfigError

end StaticGzip
