import StaticGzip.Text.Basic

/-! # Content types by file extension

Four kinds of web file have a content type of their own; any other file is sent without one. -/

namespace StaticGzip

/-- A **content type** that the server announces. -/
inductive ContentType where
  | html
  | javascript
  | css
  | wasm
deriving DecidableEq, Repr

namespace ContentType

/-- The header value of a content type. -/
def text : ContentType → String
  | .html => "text/html; charset=utf-8"
  | .javascript => "application/javascript; charset=utf-8"
  | .css => "text/css; charset=utf-8"
  | .wasm => "application/wasm"

/-- The extension, with its dot, whose files have the content type. -/
def extension : ContentType → String
  | .html => ".html"
  | .javascript => ".js"
  | .css => ".css"
  | .wasm => ".wasm"

/-- All content types. -/
def all : List ContentType := [.html, .javascript, .css, .wasm]

/-- The content type of an extension, if it is one of the four; case matters. -/
def ofExtension? (extension : Text) : Option ContentType :=
  all.find? (·.extension.toList == extension)

/-- Each content type is the one of its own extension. -/
theorem ofExtension?_extension (c : ContentType) :
    ofExtension? c.extension.toList = some c := by
  cases c <;> decide

end ContentType

end StaticGzip
