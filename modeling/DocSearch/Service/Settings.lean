import DocSearch.Backend.Client
import DocSearch.CommandLine
import DocSearch.Service.Basic
/-!
# Settings of the service

* `Settings` — where the service is found, and what it works with.
* `Settings.parse` — the settings of a command line and an environment.
-/

namespace DocSearch

/-- Where the service is found, and what it works with. -/
structure Settings where
  /-- The address at which the service listens. -/
  listen : String
  indexAddress : String
  indexName : String
  storeAddress : String
  /-- What the tokens are made with. All services that share tokens need the same secret. -/
  secret : String
  /-- After how many seconds the tag cache is dropped; not at all for zero. -/
  cacheSeconds : Option Nat
  tagLimit : Nat
  timeoutSeconds : Nat
deriving DecidableEq, Repr, Inhabited

namespace Settings

/-- The options of the service. -/
def spec : CommandSpec where
  options := [
    { name := "bind-addr", variableName := some "BIND_ADDR", fallback := some "0.0.0.0:8004" },
    { name := "elasticsearch-url", variableName := some "ELASTICSEARCH_URL",
      fallback := some "http://localhost:9200" },
    { name := "es-index", variableName := some "ES_INDEX", fallback := some "ambar_file_data" },
    { name := "redis-url", variableName := some "REDIS_URL",
      fallback := some "redis://localhost:6379" },
    { name := "uri-secret", variableName := some "URI_SECRET", required := true },
    { name := "tag-cache-ttl-secs", kind := .number, variableName := some "TAG_CACHE_TTL_SECS" },
    { name := "max-tags-in-agg", kind := .number, variableName := some "MAX_TAGS_IN_AGG",
      fallback := some (toString defaultTagLimit) },
    { name := "request-timeout-secs", kind := .number, variableName := some "REQUEST_TIMEOUT_SECS",
      fallback := some "30" }]

/-- The settings that were given. -/
def ofGiven (g : Given) : Settings where
  listen := g.text "bind-addr"
  indexAddress := g.text "elasticsearch-url"
  indexName := g.text "es-index"
  storeAddress := g.text "redis-url"
  secret := g.text "uri-secret"
  cacheSeconds := g.number? "tag-cache-ttl-secs"
  tagLimit := g.number "max-tags-in-agg"
  timeoutSeconds := g.number "request-timeout-secs"

/-- The settings of a command line and an environment. -/
def parse (environment : String → Option String) (args : List String) :
    Except ArgumentError Settings :=
  (CommandLine.parse spec environment args).map ofGiven

/-- After how many seconds the tag cache is dropped, if ever. -/
def cacheLifetime (s : Settings) : Option Nat := s.cacheSeconds.filter (0 < ·)

/-- The service with these settings. -/
def service (s : Settings) : Service := ⟨Codec.ofSecret s.secret, s.tagLimit⟩

/-- The document index that the service asks. -/
def backend (s : Settings) : Backend := ⟨s.indexAddress, s.indexName⟩

end Settings

end DocSearch
