import Mathlib.Data.List.TakeWhile
import Mathlib.Tactic.SplitIfs
import StaticGzip.Http.Head
import StaticGzip.Proofs.Except

/-! # Accepted requests

A request is accepted if each of its parts is: its method is a token, its target one of the four
forms, and its header lines have names that are tokens and values without control characters.

* **`Request.Accepted`** — such a request.
* **`Target.spelled_of_ofText?`** — the characters of an accepted target.
* **`Head.accepted_of_scan`** — every request that is read from a stream is accepted. -/

namespace StaticGzip.Http

/-- A request whose parts are **accepted**, each in its own language. -/
structure Request.Accepted (r : Request) : Prop where
  method : ∃ t, Method.ofText? t = some r.method
  target : ∃ t, Target.ofText? t = .ok r.target
  headers : ∀ h ∈ r.headers, ∃ name value, Header.ofBytes name value = .ok h

/-! ## Characters -/

/-- A method is a **token**. -/
theorem Method.all_of_ofText? {t : Text} {m : Method} (h : Method.ofText? t = some m) :
    ∀ c ∈ m.text, isTokenChar c = true := by
  unfold Method.ofText? at h
  split at h
  · rename_i token
    rw [Bool.and_eq_true, List.all_eq_true] at token
    cases h
    exact token.2
  · simp at h

namespace Target

/-- A target of **accepted characters**. -/
structure Spelled (target : Target) : Prop where
  path : ∀ c ∈ target.path, isPathChar c = true
  query : ∀ query ∈ target.query, ∀ c ∈ query, isQueryChar c = true

theorem spelled_of_ofPathAndQuery? {t : Text} {target : Target}
    (h : ofPathAndQuery? t = .ok target) : target.Spelled := by
  unfold ofPathAndQuery? at h
  generalize t.takeWhile (fun c => c != '?' && c != '#') = path at h
  dsimp only at h
  split at h
  · simp at h
  · rename_i accepted
    have inPath : ∀ c ∈ if path.isEmpty then ['/'] else path, isPathChar c = true := by
      rw [Bool.not_eq_true, Bool.not_eq_false', List.all_eq_true] at accepted
      split
      · exact List.forall_mem_singleton.mpr (by decide)
      · exact accepted
    split at h
    · split at h
      · rename_i inQuery
        cases h
        exact ⟨inPath, by simpa using inQuery⟩
      · simp at h
    · cases h
      exact ⟨inPath, by simp⟩

/-- The path and the query of a target are made of **accepted characters**, whichever form it
has. -/
theorem spelled_of_ofText? {t : Text} {target : Target} (h : ofText? t = .ok target) :
    target.Spelled := by
  unfold ofText? at h
  split at h
  · simp at h
  · split at h
    · simp at h
    · cases h
      exact ⟨List.forall_mem_singleton.mpr (by decide), by simp⟩
    · exact spelled_of_ofPathAndQuery? h
    -- Without a scheme the text is an authority, which leaves no path; after one, a path follows.
    · obtain ⟨scheme, -, h⟩ := bind_eq_ok_iff.mp h
      split at h
      · obtain ⟨authority, -, h⟩ := bind_eq_ok_iff.mp h
        dsimp only at h
        split_ifs at h
        cases h
        exact ⟨List.forall_mem_nil _, by simp⟩
      · obtain ⟨authority, -, h⟩ := bind_eq_ok_iff.mp h
        dsimp only at h
        split_ifs at h
        exact spelled_of_ofPathAndQuery? h

end Target

/-! ## Scanning -/

namespace Scanner

variable {ε α β : Type}

/-- What is read by one scanner **after another**. -/
theorem exists_of_bind {s : Scanner ε α} {f : α → Scanner ε β} {bytes rest : Bytes} {b : β}
    (h : (s >>= f) bytes = .read b rest) :
    ∃ a between, s bytes = .read a between ∧ f a between = .read b rest := by
  cases read : s bytes with
  | read a between =>
    have next : (s >>= f) bytes = f a between := by simp only [bind, read]
    exact ⟨a, between, rfl, next.symm.trans h⟩
  | short =>
    have next : (s >>= f) bytes = .short := by simp only [bind, read]
    cases next.symm.trans h
  | broken e =>
    have next : (s >>= f) bytes = .broken e := by simp only [bind, read]
    cases next.symm.trans h

/-- The bytes of a span are of **its class**. -/
theorem all_of_span {p : UInt8 → Bool} {bytes taken rest : Bytes}
    (h : span (ε := ε) p bytes = .read taken rest) : ∀ b ∈ taken, p b = true := by
  unfold span at h
  split at h
  · simp at h
  · cases h
    exact fun b hb => List.mem_takeWhile_imp hb

end Scanner

namespace Head

/-- A **word** is made of bytes of its class, at least one. -/
theorem of_word {p : UInt8 → Bool} {e : HeadError} {bytes taken rest : Bytes}
    (h : word p e bytes = .read taken rest) : taken ≠ [] ∧ ∀ b ∈ taken, p b = true := by
  unfold word at h
  obtain ⟨span, _, read, h⟩ := Scanner.exists_of_bind h
  dsimp only at h
  split at h
  · cases h
  · rename_i some
    obtain ⟨_, _, -, h⟩ := Scanner.exists_of_bind h
    cases h
    exact ⟨by simpa using some, Scanner.all_of_span read⟩

/-- The bytes of a token **are a method**. -/
theorem exists_method {bytes : Bytes} (some : bytes ≠ [])
    (token : ∀ b ∈ bytes, isTokenByte b = true) :
    ∃ t, Method.ofText? t = .some ⟨charsOf bytes⟩ := by
  have accepted : (!(charsOf bytes).isEmpty && (charsOf bytes).all isTokenChar) = true := by
    rw [Bool.and_eq_true, List.all_eq_true]
    refine ⟨by simpa [charsOf] using some, fun c there => ?_⟩
    obtain ⟨b, hb, rfl⟩ := List.mem_map.mp there
    exact token b hb
  exact ⟨charsOf bytes, if_pos accepted⟩

/-- What is made of bytes as a target is **made of a text**. -/
theorem exists_target {bytes : Bytes} {target : Target} (h : target? bytes = .ok target) :
    ∃ t, Target.ofText? t = .ok target := by
  unfold target? at h
  split at h
  · simp at h
  · split at h
    · simp at h
    · exact ⟨_, mapError_eq_ok_iff.mp h⟩

/-- The parts of a head are **accepted** each. -/
theorem accepted_of_ofParts {method target : Bytes} {version : Version}
    {lines : List (Bytes × Bytes)} {head : Head} (some : method ≠ [])
    (token : ∀ b ∈ method, isTokenByte b = true)
    (h : ofParts method target version lines = .ok head) : head.request.Accepted := by
  obtain ⟨path, inTarget, h⟩ := bind_eq_ok_iff.mp h
  obtain ⟨headers, inLines, h⟩ := bind_eq_ok_iff.mp h
  obtain ⟨terms, -, h⟩ := bind_eq_ok_iff.mp h
  cases h
  exact {
    method := exists_method some token
    target := exists_target inTarget
    headers := fun header there => by
      obtain ⟨⟨name, value⟩, accepted⟩ := exists_of_mapM_ok inLines header there
      exact ⟨name, value, mapError_eq_ok_iff.mp accepted⟩ }

/-- Every request that is **read from a stream** is accepted. -/
theorem accepted_of_scan {bytes rest : Bytes} {head : Head} (h : scan bytes = .read head rest) :
    head.request.Accepted := by
  unfold scan at h
  obtain ⟨_, _, -, h⟩ := Scanner.exists_of_bind h
  obtain ⟨method, _, read, h⟩ := Scanner.exists_of_bind h
  obtain ⟨target, _, -, h⟩ := Scanner.exists_of_bind h
  obtain ⟨version, _, -, h⟩ := Scanner.exists_of_bind h
  obtain ⟨_, _, -, h⟩ := Scanner.exists_of_bind h
  obtain ⟨lines, _, -, h⟩ := Scanner.exists_of_bind h
  cases parts : ofParts method target version lines with
  | error e =>
    rw [parts] at h
    cases h
  | ok whole =>
    rw [parts] at h
    cases h
    exact accepted_of_ofParts (of_word read).1 (of_word read).2 parts

end Head

end StaticGzip.Http
