import StaticGzip.Proofs.Confinement
import StaticGzip.Proofs.ResponseShapes

/-! # What a response depends on

Two runs are compared. The response to a request depends on the files, on the root, on the path of
the request, and on whether the request accepts a page; the last one counts only if the path has no
extension. Nothing else that a request says and no other setting has any influence on it: not the
method, the query, the version or another header, not the circumstances, and not what is logged or
how many connections are served.

* **`Http.Request.AskAlike`** — two requests that ask for the same.
* **`Handle.respond_response_eq`** — the method and the path decide nothing but what is logged.
* **`response_handle_eq_of_askAlike`** — two requests that ask for the same get the same
  response. -/

namespace StaticGzip

/-- Two requests **ask alike**: for the same path, and with the same answer to whether a page is
accepted, unless the path has an extension, in which case that does not matter. -/
structure Http.Request.AskAlike (request other : Http.Request) : Prop where
  path : request.target.path = other.target.path
  accept : extension request.target.path = [] →
    acceptsHtml request.headers = acceptsHtml other.headers

/-- Requests that ask alike have the **same route**. -/
theorem Http.Request.AskAlike.route_eq {request other : Http.Request}
    (alike : request.AskAlike other) :
    Route.ofRequest? request.target.path request.headers
      = Route.ofRequest? other.target.path other.headers := by
  unfold Route.ofRequest?
  rw [← alike.path]
  by_cases named : extension request.target.path = []
  · rw [alike.accept named]
  · rw [if_pos named, if_pos named]

/-- Requests that ask alike are **served alike**: the same questions, the same result and the same
events. -/
theorem Http.Request.AskAlike.serve_eq {request other : Http.Request}
    (alike : request.AskAlike other) (fs : FileSystem) (root : Path) :
    serve fs root request.target.path request.headers
      = serve fs root other.target.path other.headers := by
  have routes := alike.route_eq
  cases routed : Route.ofRequest? request.target.path request.headers with
  | none =>
    rw [serve_of_no_route routed, serve_of_no_route (routes.symm.trans routed), alike.path]
  | some route =>
    rw [(serve_of_route routed fs).eq_file,
      (serve_of_route (routes.symm.trans routed) fs).eq_file]

/-- The **response** of a result is the same for every method and every path; these only matter to
what is logged. -/
theorem Handle.respond_response_eq (method method' : Http.Method) (path path' : Text)
    (result : Except ServeError Outcome) :
    (respond method path result).1 = (respond method' path' result).1 := by
  cases result with
  | error e => rfl
  | ok outcome => cases outcome <;> rfl

/-- **The response depends on the files, the root and what is asked for.** Two requests that ask
alike get the same status, the same headers and the same body, under settings that need not have
more in common than the root directory. -/
theorem response_handle_eq_of_askAlike (fs : FileSystem) {settings settings' : Settings}
    (sameRoot : settings.rootDir = settings'.rootDir) {request other : Http.Request}
    (alike : request.AskAlike other) (c c' : Circumstances) :
    (handle fs settings c request).response = (handle fs settings' c' other).response := by
  have roots : settings.root = settings'.root := congrArg Path.ofString sameRoot
  rw [Handle.response_handle, Handle.response_handle, roots, alike.serve_eq fs settings'.root]
  exact Handle.respond_response_eq ..

/-- A checkout and a look at the same page, which differ in all that does not matter, get the same
page; so do two requests for a style sheet of which only one accepts a page. -/
theorem response_handle_eq_checkout :
    let fs := secretOutside (.ofString "/etc") ⟨#[104, 105]⟩
    let logged : Settings :=
      ⟨⟨"0.0.0.0", 80, none⟩, "/srv/www", ⟨"info", true, "json"⟩, ⟨75, 30, 30, none⟩⟩
    let quiet : Settings :=
      ⟨⟨"::1", 8080, some 2⟩, "/srv/www", ⟨"error", false, "$request"⟩, ⟨0, 1, 0, some 7⟩⟩
    let now : Circumstances := ⟨.v4 #v[192, 0, 2, 7] 40000, ⟨0, 0, 0⟩, ⟨0, 1500⟩⟩
    let later : Circumstances := ⟨.v4 #v[127, 0, 0, 1] 7, ⟨86400, 1, 3600⟩, .zero⟩
    let line (name value : String) : Http.Header := ⟨name, Http.Response.utf8 value.toList⟩
    let checkout : Http.Request := ⟨⟨"POST".toList⟩,
      ⟨"/checkout".toList, some "step=2".toList⟩, .v10,
      [line "accept" "*/*,text/html", line "referer" "/cart"]⟩
    let look : Http.Request := ⟨.get, ⟨"/checkout".toList, none⟩, .v11,
      [line "user-agent" "reader", line "accept" "text/html", line "accept" "text/plain"]⟩
    let sheet : Http.Request := ⟨.get, ⟨"/site.css".toList, none⟩, .v11, []⟩
    (checkout.AskAlike look ∧
      (handle fs logged now checkout).response = (handle fs quiet later look).response ∧
      (handle fs logged now checkout).response.status = 200) ∧
    let accepting : Http.Request := { sheet with headers := checkout.headers }
    sheet.AskAlike accepting ∧ acceptsHtml sheet.headers ≠ acceptsHtml accepting.headers ∧
      (handle fs quiet now sheet).response = (handle fs logged now accepting).response := by
  intro fs logged quiet now later line checkout look sheet
  have pages : checkout.AskAlike look := ⟨rfl, fun _ => by decide⟩
  have sheets : sheet.AskAlike { sheet with headers := checkout.headers } :=
    ⟨rfl, fun plain => absurd plain (by decide)⟩
  exact ⟨⟨pages, response_handle_eq_of_askAlike fs rfl pages now later, by decide⟩,
    sheets, by decide, response_handle_eq_of_askAlike fs rfl sheets now now⟩

end StaticGzip
