import StaticGzip.Path

/-! # Settings of the server

What the server has to know before it starts: where it listens, what it serves, what it logs, and
how long and how many connections it serves. -/

namespace StaticGzip

/-- Where the server listens, and on how many threads it works. -/
structure ServerSettings where
  host : String
  port : UInt16
  workers : Option UInt64
deriving DecidableEq, Repr

/-- What the server logs. -/
structure LoggingSettings where
  level : String
  accessLog : Bool
  accessLogFormat : String
deriving DecidableEq, Repr

/-- The limits of the connections, in seconds and in their number. -/
structure PerformanceSettings where
  keepAliveTimeout : UInt64
  readTimeout : UInt64
  writeTimeout : UInt64
  maxConnections : Option UInt64
deriving DecidableEq, Repr

/-- The **settings** of a server. -/
structure Settings where
  server : ServerSettings
  rootDir : String
  logging : LoggingSettings
  performance : PerformanceSettings
deriving DecidableEq, Repr

/-- The **lifetime** of a connection in seconds, the larger of the two timeouts; zero is no
bound. -/
def PerformanceSettings.lifetime (p : PerformanceSettings) : UInt64 :=
  if p.readTimeout ≤ p.writeTimeout then p.writeTimeout else p.readTimeout

/-- A connection is unbounded exactly if neither timeout is set. -/
theorem PerformanceSettings.lifetime_eq_zero_iff (p : PerformanceSettings) :
    p.lifetime = 0 ↔ p.readTimeout = 0 ∧ p.writeTimeout = 0 := by
  simp only [lifetime, UInt64.le_iff_toNat_le, ← UInt64.toNat_inj, UInt64.toNat_zero]
  split <;> omega

/-- The **limit** that leaves no room for another connection when there are already so many. -/
def PerformanceSettings.reachedLimit? (p : PerformanceSettings) (before : UInt64) :
    Option UInt64 := p.maxConnections.filter (· ≤ before)

/-- The directory that is served. -/
def Settings.root (s : Settings) : Path := .ofString s.rootDir

end StaticGzip
