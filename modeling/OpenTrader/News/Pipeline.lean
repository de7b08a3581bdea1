import Mathlib.Algebra.Order.Field.Rat
import Mathlib.Data.List.Sort
import Mathlib.Data.String.Basic
import OpenTrader.Base.Dict
import OpenTrader.Base.Envelope

/-!
# News pipeline

Library `News`. The connectors, `services/news_ingestion/source_connectors.py:12-214`, the
ingestion, `services/news_ingestion/ingestion_service.py:13-186`, the tags,
`services/news_ingestion/tagging_relevance.py:10-161`, and a cycle of the worker,
`services/workers/news.py:104-148`. SHA-256 and the ids of `uuid4` are parameters; scores are exact
rationals. The stores are the in-memory ones, which do not fail, and the clock shows one time in a
cycle: nothing reads it.
-/

namespace OpenTrader.News
open Base

/-! ### Records of the sources -/

variable (now text : String)

/-- `text or default`. -/
def orText (default : String) : String := if text = "" then default else text

/-- `NewsSourceRecord`. -/
structure NewsSourceRecord where
  source : String
  sourceItemId : String
  publishedAt : String
  title : String
  url : Option String := none
  content : String := ""
  metadata : Payload := ⟨[]⟩

/-- What the callable of a source returns: a record, or a mapping to make one of. -/
inductive RawItem where
  | record (record : NewsSourceRecord)
  | mapping (entries : Payload)

/-- An exception, with the name of its class. -/
structure SourceError where
  className : String
  message : String
  deriving DecidableEq

variable (limit : ℤ) (fetched : Fetched) (connector : String × ConnectorKind)
  (defaultSource : String) (item : NormalizedNewsItem) (registry : SourceConnectorRegistry)

/-- The record made of a mapping; `source_connectors.py:189-204`. -/
def recordOf (item : Payload) : NewsSourceRecord where
  source := orText (strip (item.getText "source" defaultSource)) defaultSource
  sourceItemId := strip (item.getText "source_item_id" "")
  publishedAt := orText (strip (item.getText "published_at" "")) now
  title := strip (item.getText "title" "")
  url :=
    match item.get? "url" with
    | none => none
    | some .null => none
    | some value => some (strip value.print)
  content := item.getText "content" ""
  metadata := ((item.get? "metadata").map PayloadValue.asPayload).getD ⟨[]⟩

/-- `_normalize_record` of the connectors; `source_connectors.py:181-214`. -/
def normalizeSourceRecord (item : RawItem) : Except SourceError NewsSourceRecord :=
  let record :=
    match item with
    | .record record => record
    | .mapping entries => recordOf now defaultSource entries
  if strip record.source = "" then .error ⟨"ValueError", "record.source must be non-empty"⟩
  else if strip record.sourceItemId = "" then
    .error ⟨"ValueError", "record.source_item_id must be non-empty"⟩
  else if strip record.title = "" then .error ⟨"ValueError", "record.title must be non-empty"⟩
  else if strip record.publishedAt = "" then
    .error ⟨"ValueError", "record.published_at must be non-empty"⟩
  else .ok record

/-! ### Connectors -/

/-- `ConnectorKind`. -/
inductive ConnectorKind where
  | rss
  | api
  | social
  | custom
  deriving DecidableEq

/-- `ConnectorFetchResult`. -/
structure ConnectorFetchResult where
  source : String
  connectorKind : ConnectorKind
  items : List NewsSourceRecord
  degraded : Bool
  error : Option String
  fetchedAt : String

/-- `ConnectorCycleResult`. -/
structure ConnectorCycleResult where
  results : List ConnectorFetchResult
  items : List NewsSourceRecord
  totalItems : ℕ
  sourcesTotal : ℕ
  degradedSources : List String

/-- `SourceConnectorRegistry`: the connectors by their id. -/
structure SourceConnectorRegistry where
  connectors : Dict String ConnectorKind

/-- What the callables of the connectors return or raise in one cycle. -/
abbrev Fetched := String → Except SourceError (List RawItem)

/-- `list_connectors`; `source_connectors.py:120-124`. -/
def SourceConnectorRegistry.listConnectors : List (String × ConnectorKind) :=
  registry.connectors.entries.insertionSort fun a b => a.1 ≤ b.1

/-- `CallableSourceConnector.fetch`; `source_connectors.py:83-98`. -/
def fetch : Except SourceError ConnectorFetchResult :=
  if limit ≤ 0 then .error ⟨"ValueError", "limit must be positive"⟩
  else do
    let rawItems ← fetched connector.1
    let normalizedItems ← rawItems.mapM (normalizeSourceRecord now connector.1)
    pure
      { source := connector.1
        connectorKind := connector.2
        items := normalizedItems
        degraded := false
        error := none
        fetchedAt := now }

/-- The result of one connector, with its failure contained; `source_connectors.py:155-165`. -/
def fetchIsolated : ConnectorFetchResult :=
  match fetch now limit fetched connector with
  | .ok result => result
  | .error e =>
    { source := connector.1
      connectorKind := connector.2
      items := []
      degraded := true
      error := some (e.className ++ ": " ++ e.message)
      fetchedAt := now }

/-- `fetch_cycle`; `source_connectors.py:133-178`. -/
def SourceConnectorRegistry.fetchCycle (now : String) (limitPerSource : ℤ)
    (sourceFilter : List String) (fetched : Fetched) : Except SourceError ConnectorCycleResult :=
  if limitPerSource ≤ 0 then .error ⟨"ValueError", "limit_per_source must be positive"⟩
  else
    let selected := registry.listConnectors.filter fun connector =>
      sourceFilter.isEmpty || sourceFilter.contains connector.1
    let results := selected.map (fetchIsolated now limitPerSource fetched)
    let items := results.flatMap (·.items)
    .ok
      { results
        items
        totalItems := items.length
        sourcesTotal := results.length
        degradedSources := (results.filter (·.degraded)).map (·.source) }

/-! ### Ingestion -/

/-- The `raw_payload` of an item. -/
structure RawPayload where
  source : String
  sourceItemId : String
  url : String
  title : String
  content : String
  publishedAt : String
  metadata : Payload

/-- `NormalizedNewsItem`. -/
structure NormalizedNewsItem where
  newsId : String
  source : String
  sourceItemId : String
  url : String
  title : String
  body : Option String
  publishedAt : String
  ingestedAt : String
  contentHash : String
  language : String
  rawPayload : RawPayload

/-- `NewsIngestionOutcome`. -/
structure NewsIngestionOutcome where
  source : String
  sourceItemId : String
  inserted : Bool
  dedupeReason : Option String
  item : Option NormalizedNewsItem

/-- `NewsIngestionBatchResult`. -/
structure NewsIngestionBatchResult where
  totalRecords : ℕ
  insertedCount : ℕ
  duplicateCount : ℕ
  outcomes : List NewsIngestionOutcome

/-- `NewsTag`. -/
structure NewsTag where
  newsId : String
  symbol : Option String
  topic : String
  relevanceScore : ℚ
  sentimentScore : ℚ
  deriving DecidableEq

/-- The item store, the tag store and the number of ids drawn so far. -/
structure NewsState where
  items : Dict (String × String) NormalizedNewsItem := Dict.empty
  hashes : List String := []
  tags : List NewsTag := []
  idsDrawn : ℕ := 0

namespace NewsState

variable (s : NewsState)

/-- `has_source_item`. -/
def hasSourceItem (source sourceItemId : String) : Bool :=
  (s.items.get? (source, sourceItemId)).isSome

/-- `has_hash`. -/
def hasHash (contentHash : String) : Bool := s.hashes.contains contentHash

/-- The state after an id was drawn from `uuid4`. -/
def drawId : NewsState := { s with idsDrawn := s.idsDrawn + 1 }

/-- `persist_item`; `ingestion_service.py:70-72`. -/
def persistItem (item : NormalizedNewsItem) : NewsState :=
  { s with
    items := s.items.set (item.source, item.sourceItemId) item
    hashes := s.hashes.insert item.contentHash }

/-- One pass of the loop after the normalization; `ingestion_service.py:102-125`. -/
def dedupe (item : NormalizedNewsItem) : NewsIngestionOutcome × NewsState :=
  if s.hasSourceItem item.source item.sourceItemId then
    (⟨item.source, item.sourceItemId, false, some "duplicate_source_item", none⟩, s)
  else if s.hasHash item.contentHash then
    (⟨item.source, item.sourceItemId, false, some "duplicate_hash", none⟩, s)
  else (⟨item.source, item.sourceItemId, true, none, some item⟩, s.persistItem item)

end NewsState

section

variable (sha256 : String → String) (uuid : ℕ → String)

/-- `_content_hash`; `ingestion_service.py:183-186`. -/
def contentHash (title : String) (body : Option String) : String :=
  sha256 (strip title ++ "\n" ++ strip (body.getD ""))

/-- `(record.content or "").strip() or None`. -/
def bodyOf (content : String) : Option String :=
  if strip content = "" then none else some (strip content)

/-- `_normalize_record` of the ingestion; `ingestion_service.py:134-180`. -/
def normalizeRecord (newsId now : String) (record : NewsSourceRecord) :
    Except String NormalizedNewsItem :=
  let source := strip record.source
  let sourceItemId := strip record.sourceItemId
  let title := strip record.title
  let url := strip (record.url.getD "")
  let publishedAt := strip record.publishedAt
  if source = "" then .error "record.source must be non-empty"
  else if sourceItemId = "" then .error "record.source_item_id must be non-empty"
  else if title = "" then .error "record.title must be non-empty"
  else if url = "" then .error "record.url must be non-empty"
  else if publishedAt = "" then .error "record.published_at must be non-empty"
  else
    let body := bodyOf record.content
    .ok
      { newsId, source, sourceItemId, url, title, body, publishedAt
        ingestedAt := now
        contentHash := contentHash sha256 title body
        language := orText (lower (strip (record.metadata.getText "language" "en"))) "en"
        rawPayload :=
          { source, sourceItemId, url, title, publishedAt
            content := body.getD ""
            metadata := record.metadata } }

/-- The loop of `ingest`; `ingestion_service.py:97-125`. An id is drawn for every record that can be
normalized. -/
def ingestLoop (now : String) :
    List NewsSourceRecord → NewsState → Except String (List NewsIngestionOutcome) × NewsState
  | [], s => (.ok [], s)
  | record :: records, s =>
    match normalizeRecord sha256 (uuid s.idsDrawn) now record with
    | .error e => (.error e, s)
    | .ok item =>
      let (outcome, s) := s.drawId.dedupe item
      let (outcomes, s) := ingestLoop now records s
      (outcomes.map (outcome :: ·), s)

/-- `NewsIngestionService.ingest`; `ingestion_service.py:92-132`. -/
def ingest (now : String) (records : List NewsSourceRecord) (s : NewsState) :
    Except String NewsIngestionBatchResult × NewsState :=
  let (outcomes, s) := ingestLoop sha256 uuid now records s
  (outcomes.map fun outcomes =>
    { totalRecords := outcomes.length
      insertedCount := outcomes.countP (·.inserted)
      duplicateCount := outcomes.countP fun outcome => !outcome.inserted
      outcomes }, s)

end

/-! ### Tags -/

/-- `_SYMBOL_KEYWORDS`. -/
def symbolKeywords : List (String × List String) :=
  [("BTC", ["btc", "bitcoin", "etf"]), ("ETH", ["eth", "ethereum", "staking", "merge"]),
    ("SOL", ["sol", "solana"])]

/-- `_TOPIC_KEYWORDS`. -/
def topicKeywords : List (String × List String) :=
  [("etf", ["etf", "inflow", "outflow"]), ("security", ["hack", "exploit", "breach", "security"]),
    ("exchange", ["exchange", "listing", "delisting"]),
    ("macro", ["macro", "rates", "liquidity", "inflation"]),
    ("regulation", ["sec", "regulation", "regulatory"]),
    ("market", ["market", "volatility", "price action"]),
    ("protocol", ["upgrade", "fork", "protocol", "validator"])]

/-- `_POSITIVE_WORDS`. -/
def positiveWords : List String :=
  ["bullish", "optimism", "surge", "strong", "approval", "growth", "demand", "stable"]

/-- `_NEGATIVE_WORDS`. -/
def negativeWords : List String :=
  ["bearish", "fear", "panic", "hack", "exploit", "risk", "liquidation", "drop"]

/-- `_normalize_text`; `tagging_relevance.py:120-121`. -/
def normalizeText : String :=
  lower (strip (item.title ++ "\n" ++ item.body.getD ""))

/-- `_best_match`; `tagging_relevance.py:124-132`. -/
def bestMatch (keywordMap : List (String × List String)) : Option String × ℕ :=
  keywordMap.foldl
    (fun best entry =>
      let hits := entry.2.countP fun keyword => containsText keyword text
      if best.2 < hits then (some entry.1, hits) else best)
    (none, 0)

/-- A character of `[a-z0-9_]`. -/
def isTokenChar (c : Char) : Bool := c.isLower || c.isDigit || c == '_'

/-- `re.findall(r"[a-z0-9_]+", text)`. -/
def tokens : List String :=
  ((text.toList.splitOnP fun c => !isTokenChar c).filter fun token => !token.isEmpty).map
    String.ofList

/-- `_sentiment_score`; `tagging_relevance.py:135-143`. -/
def sentimentScore : ℚ :=
  let positiveHits := (tokens text).countP positiveWords.contains
  let negativeHits := (tokens text).countP negativeWords.contains
  let total := positiveHits + negativeHits
  if total = 0 then 0
  else max (-1) (min 1 (((positiveHits : ℚ) - negativeHits) / total))

/-- `_relevance_score`; `tagging_relevance.py:146-161`. -/
def relevanceScore (symbolHits topicHits : ℕ) (sentiment : ℚ) (hasSymbol hasTopic : Bool) : ℚ :=
  let base := min 1 ((symbolHits * (6 / 5) + topicHits + |sentiment|) / 4)
  let base :=
    if hasSymbol then max base (3 / 5) else if hasTopic then max base (7 / 20) else base
  max 0 (min 1 base)

/-- The tag of an item; `tagging_relevance.py:88-110`. -/
def tagOf : NewsTag :=
  let text := normalizeText item
  let (symbol, symbolHits) := bestMatch text symbolKeywords
  let (found, topicHits) := bestMatch text topicKeywords
  let topic := found.getD "general"
  let sentiment := sentimentScore text
  { newsId := item.newsId
    symbol
    topic
    relevanceScore :=
      relevanceScore symbolHits topicHits sentiment symbol.isSome (topic != "general")
    sentimentScore := sentiment }

/-- `tag_items` with a store that takes every tag; `tagging_relevance.py:82-117`. -/
def NewsState.tagItems (s : NewsState) (items : List NormalizedNewsItem) : NewsState :=
  { s with tags := s.tags ++ items.map tagOf }

/-! ### A cycle of the worker -/

/-- What a cycle meets: the time, what the sources return, and whether `summarize_window` raises,
which reads neither of the two stores and writes to neither. -/
structure NewsCycle where
  now : String
  fetched : Fetched
  summarized : Except String Unit := .ok ()

/-- An exception that leaves `run_once`. -/
inductive NewsError where
  | source (error : SourceError)
  | ingestion (message : String)
  | summary (message : String)
  deriving DecidableEq

/-- `run_once`; `news.py:104-148`. -/
def runOnce (sha256 : String → String) (uuid : ℕ → String) (registry : SourceConnectorRegistry)
    (s : NewsState) (cycle : NewsCycle) : Except NewsError Bool × NewsState :=
  match registry.fetchCycle cycle.now 10 [] cycle.fetched with
  | .error e => (.error (.source e), s)
  | .ok result =>
    if result.totalItems = 0 then (.ok false, s)
    else
      match ingest sha256 uuid cycle.now result.items s with
      | (.error e, s) => (.error (.ingestion e), s)
      | (.ok batch, s) =>
        let inserted := batch.outcomes.filterMap fun outcome =>
          if outcome.inserted then outcome.item else none
        if inserted.isEmpty then (.ok false, s)
        else
          let s := s.tagItems inserted
          match cycle.summarized with
          | .error e => (.error (.summary e), s)
          | .ok () => (.ok true, s)

end OpenTrader.News
