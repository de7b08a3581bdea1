import Mathlib.Data.List.Range
import OpenTrader.Base.Fallible
import OpenTrader.Base.Trace
import OpenTrader.News.Pipeline

/-!
# Ingestion of news

Library `News`. `services/news_ingestion/ingestion_service.py:57-186`. A record is stored unless its
source key or the hash of its content is stored already. A record that is refused ends its batch;
what was stored before it stays.
-/

namespace OpenTrader.News
open Base

/-! ### Records that the ingestion takes -/

/-- The ingestion takes the record: none of the fields it checks is blank. -/
def NewsSourceRecord.Accepted (record : NewsSourceRecord) : Prop :=
  strip record.source ≠ "" ∧ strip record.sourceItemId ≠ "" ∧ strip record.title ≠ "" ∧
    strip (record.url.getD "") ≠ "" ∧ strip record.publishedAt ≠ ""

instance (record : NewsSourceRecord) : Decidable record.Accepted :=
  inferInstanceAs (Decidable (_ ∧ _ ∧ _ ∧ _ ∧ _))

section

variable (sha256 : String → String)

/-- The hash of the item that a record becomes. -/
def NewsSourceRecord.hash (record : NewsSourceRecord) : String :=
  contentHash sha256 (strip record.title) (bodyOf record.content)

/-- The record is stored, or a duplicate of it is. -/
def NewsState.Holds (s : NewsState) (record : NewsSourceRecord) : Prop :=
  s.hasSourceItem (strip record.source) (strip record.sourceItemId) = true ∨
    s.hasHash (record.hash sha256) = true

instance (s : NewsState) (record : NewsSourceRecord) : Decidable (s.Holds sha256 record) :=
  inferInstanceAs (Decidable (_ ∨ _))

variable {sha256}

private theorem normalizeRecord_of_accepted {record : NewsSourceRecord} (h : record.Accepted)
    (newsId now : String) :
    ∃ item, normalizeRecord sha256 newsId now record = .ok item ∧ item.newsId = newsId ∧
      item.source = strip record.source ∧ item.sourceItemId = strip record.sourceItemId ∧
      item.contentHash = record.hash sha256 := by
  obtain ⟨hsource, hid, htitle, hurl, hpub⟩ := h
  simp only [normalizeRecord, hsource, hid, htitle, hurl, hpub, if_false]
  exact ⟨_, rfl, rfl, rfl, rfl, rfl⟩

private theorem normalizeRecord_of_not_accepted {record : NewsSourceRecord} (h : ¬ record.Accepted)
    (newsId now : String) : ∃ e, normalizeRecord sha256 newsId now record = .error e := by
  cases hnormalized : normalizeRecord sha256 newsId now record with
  | error e => exact ⟨e, rfl⟩
  | ok item =>
    exfalso
    apply h
    simp only [normalizeRecord] at hnormalized
    split_ifs at hnormalized with hsource hid htitle hurl hpub
    exact ⟨hsource, hid, htitle, hurl, hpub⟩

end

/-! ### One record -/

section

variable {sha256 : String → String} {uuid : ℕ → String} {now : String} {s : NewsState}

/-- The items that a batch has stored. -/
def insertedOf (outcomes : List NewsIngestionOutcome) : List NormalizedNewsItem :=
  outcomes.filterMap fun outcome => if outcome.inserted then outcome.item else none

/-- What a batch of accepted records does to the stores. -/
structure Ingested (sha256 : String → String) (uuid : ℕ → String) (s : NewsState)
    (records : List NewsSourceRecord) (inserted : List NormalizedNewsItem) (s' : NewsState) :
    Prop where
  tags_eq : s'.tags = s.tags
  drawn : s'.idsDrawn = s.idsDrawn + records.length
  /-- The stored items have the ids that were drawn for them. -/
  ids : (inserted.map (·.newsId)).Sublist
    ((List.range' s.idsDrawn records.length).map uuid)
  items : ∀ item, item ∈ s'.items.values ↔ item ∈ s.items.values ∨ item ∈ inserted
  holds : ∀ record ∈ records, s'.Holds sha256 record
  keeps : ∀ record, s.Holds sha256 record → s'.Holds sha256 record
  /-- Nothing is stored of records that are known. -/
  known : (∀ record ∈ records, s.Holds sha256 record) → inserted = []
  unchanged : inserted = [] → s'.items = s.items ∧ s'.hashes = s.hashes

private theorem ingested_nil : Ingested sha256 uuid s [] [] s where
  tags_eq := rfl
  drawn := rfl
  ids := List.Sublist.refl _
  items := by simp
  holds := by simp
  keeps _ h := h
  known _ := rfl
  unchanged _ := ⟨rfl, rfl⟩

variable {record : NewsSourceRecord}

private theorem ingested_known (h : s.Holds sha256 record) :
    Ingested sha256 uuid s [record] [] s.drawId where
  tags_eq := rfl
  drawn := rfl
  ids := List.nil_sublist _
  items := by simp [NewsState.drawId]
  holds _ hrec := by
    cases List.mem_singleton.mp hrec
    exact h
  keeps _ h := h
  known _ := rfl
  unchanged _ := ⟨rfl, rfl⟩

private theorem ingested_new {item : NormalizedNewsItem} (hnew : ¬ s.Holds sha256 record)
    (hid : item.newsId = uuid s.idsDrawn) (hsource : item.source = strip record.source)
    (hsourceId : item.sourceItemId = strip record.sourceItemId) :
    Ingested sha256 uuid s [record] [item] (s.drawId.persistItem item) where
  tags_eq := rfl
  drawn := rfl
  ids := by simp [hid]
  items other := by
    have hk : s.items.get? (item.source, item.sourceItemId) = none := by
      simpa [NewsState.Holds, NewsState.hasSourceItem, hsource, hsourceId] using (not_or.mp hnew).1
    rw [List.mem_singleton]
    exact Dict.mem_values_set_iff hk
  holds := by
    simp [NewsState.Holds, NewsState.hasSourceItem, NewsState.persistItem, hsource, hsourceId]
  keeps other := by
    rintro (h | h)
    · left
      simp only [NewsState.hasSourceItem, NewsState.persistItem, Dict.get?_set] at h ⊢
      split
      · rfl
      · exact h
    · right
      simp only [NewsState.hasHash, NewsState.persistItem, List.contains_iff_mem,
        List.mem_insert_iff] at h ⊢
      exact .inr h
  known h := absurd (h record (by simp)) hnew
  unchanged h := by cases h

private theorem Ingested.append {s₁ s₂ : NewsState} {records more : List NewsSourceRecord}
    {inserted others : List NormalizedNewsItem} (h : Ingested sha256 uuid s records inserted s₁)
    (hmore : Ingested sha256 uuid s₁ more others s₂) :
    Ingested sha256 uuid s (records ++ more) (inserted ++ others) s₂ where
  tags_eq := hmore.tags_eq.trans h.tags_eq
  drawn := by rw [hmore.drawn, h.drawn, List.length_append, add_assoc]
  ids := by
    rw [List.length_append, ← List.range'_append_1, List.map_append, List.map_append, ← h.drawn]
    exact h.ids.append hmore.ids
  items item := by rw [hmore.items, h.items, List.mem_append, or_assoc]
  holds := by
    intro record hrec
    rcases List.mem_append.mp hrec with hrec | hrec
    · exact hmore.keeps record (h.holds record hrec)
    · exact hmore.holds record hrec
  keeps record hrec := hmore.keeps record (h.keeps record hrec)
  known hall := by
    have hall' := List.forall_mem_append.mp hall
    rw [h.known hall'.1, hmore.known fun record hrec => h.keeps record (hall'.2 record hrec)]
    rfl
  unchanged hnil := by
    obtain ⟨hnil, hnil'⟩ := List.append_eq_nil_iff.mp hnil
    obtain ⟨hitems, hhashes⟩ := h.unchanged hnil
    obtain ⟨hitems', hhashes'⟩ := hmore.unchanged hnil'
    exact ⟨hitems'.trans hitems, hhashes'.trans hhashes⟩

private theorem ingested_dedupe {item : NormalizedNewsItem} (hid : item.newsId = uuid s.idsDrawn)
    (hsource : item.source = strip record.source)
    (hsourceId : item.sourceItemId = strip record.sourceItemId)
    (hhash : item.contentHash = record.hash sha256) :
    let passed := s.drawId.dedupe item
    Ingested sha256 uuid s [record] (insertedOf [passed.1]) passed.2 := by
  intro passed
  unfold passed NewsState.dedupe
  by_cases hk : s.drawId.hasSourceItem item.source item.sourceItemId = true
  · rw [if_pos hk]
    exact ingested_known (.inl (by rwa [← hsource, ← hsourceId]))
  · rw [if_neg hk]
    by_cases hseen : s.drawId.hasHash item.contentHash = true
    · rw [if_pos hseen]
      exact ingested_known (.inr (by rwa [← hhash]))
    · rw [if_neg hseen]
      refine ingested_new ?_ hid hsource hsourceId
      rintro (h | h)
      · exact hk (by rwa [hsource, hsourceId])
      · exact hseen (by rwa [hhash])

/-! ### A batch -/

/-- A batch of accepted records completes. -/
theorem ingestLoop_of_accepted {records : List NewsSourceRecord}
    (h : ∀ record ∈ records, record.Accepted) (s : NewsState) :
    ∃ outcomes s', ingestLoop sha256 uuid now records s = (.ok outcomes, s') ∧
      Ingested sha256 uuid s records (insertedOf outcomes) s' := by
  induction records generalizing s with
  | nil => exact ⟨[], s, rfl, ingested_nil⟩
  | cons record records ih =>
    obtain ⟨hacc, hrest⟩ := List.forall_mem_cons.mp h
    obtain ⟨item, hitem, hid, hsource, hsourceId, hhash⟩ :=
      @normalizeRecord_of_accepted sha256 record hacc (uuid s.idsDrawn) now
    have hfst := ingested_dedupe hid hsource hsourceId hhash
    obtain ⟨outcomes, s', hloop, hmore⟩ :=
      ih hrest (s.drawId.dedupe item).2
    refine ⟨(s.drawId.dedupe item).1 :: outcomes, s', ?_, ?_⟩
    · simp only [ingestLoop, hitem, hloop]
      rfl
    · have happend := hfst.append hmore
      rwa [insertedOf, insertedOf, ← List.filterMap_append] at happend

/-- A batch ends at the first record that is refused. -/
theorem ingestLoop_of_refused {records : List NewsSourceRecord}
    (h : ∃ record ∈ records, ¬ record.Accepted) (s : NewsState) :
    ∃ e, ingestLoop sha256 uuid now records s =
      (.error e, (ingestLoop sha256 uuid now
        (records.takeWhile fun record => decide record.Accepted) s).2) := by
  induction records generalizing s with
  | nil => simp at h
  | cons record records ih =>
    by_cases hacc : record.Accepted
    · have hrest : ∃ record ∈ records, ¬ record.Accepted := by
        obtain ⟨bad, hm, hbad⟩ := h
        rcases List.mem_cons.mp hm with rfl | hm
        · exact absurd hacc hbad
        · exact ⟨bad, hm, hbad⟩
      obtain ⟨item, hitem, -⟩ :=
        @normalizeRecord_of_accepted sha256 record hacc (uuid s.idsDrawn) now
      obtain ⟨e, hloop⟩ := ih hrest (s.drawId.dedupe item).2
      refine ⟨e, ?_⟩
      rw [List.takeWhile_cons_of_pos (by simpa using hacc)]
      simp only [ingestLoop, hitem, hloop]
      rfl
    · obtain ⟨e, hitem⟩ :=
        @normalizeRecord_of_not_accepted sha256 record hacc (uuid s.idsDrawn) now
      refine ⟨e, ?_⟩
      rw [List.takeWhile_cons_of_neg (by simpa using hacc)]
      simp only [ingestLoop, hitem]

private theorem ingestLoop_of_known {records : List NewsSourceRecord}
    (h : ∀ record ∈ records, record.Accepted) (hknown : ∀ record ∈ records, s.Holds sha256 record) :
    ∃ outcomes n, ingestLoop sha256 uuid now records s = (.ok outcomes, { s with idsDrawn := n }) ∧
      ∀ outcome ∈ outcomes, outcome.inserted = false := by
  induction records generalizing s with
  | nil => exact ⟨[], s.idsDrawn, rfl, by simp⟩
  | cons record records ih =>
    obtain ⟨hacc, hrest⟩ := List.forall_mem_cons.mp h
    obtain ⟨hheld, hknown⟩ := List.forall_mem_cons.mp hknown
    obtain ⟨item, hitem, -, hsource, hsourceId, hhash⟩ :=
      @normalizeRecord_of_accepted sha256 record hacc (uuid s.idsDrawn) now
    have hdedupe : ∃ outcome, s.drawId.dedupe item = (outcome, s.drawId) ∧
        outcome.inserted = false := by
      rw [NewsState.Holds, ← hsource, ← hsourceId, ← hhash] at hheld
      unfold NewsState.dedupe
      split_ifs with hk hseen
      · exact ⟨_, rfl, rfl⟩
      · exact ⟨_, rfl, rfl⟩
      · exact absurd hheld (not_or.mpr ⟨hk, hseen⟩)
    obtain ⟨outcome, hdedupe, hnot⟩ := hdedupe
    obtain ⟨outcomes, n, hloop, hall⟩ := @ih s.drawId hrest hknown
    refine ⟨outcome :: outcomes, n, ?_, List.forall_mem_cons.mpr ⟨hnot, hall⟩⟩
    simp only [ingestLoop, hitem, hdedupe, hloop]
    rfl

end

/-! ### Deduplication -/

section

variable (sha256 : String → String) (uuid : ℕ → String)

/-- The items of a batch that reach the store check, each with the state that it meets. -/
def storeChecks (now : String) :
    List NewsSourceRecord → NewsState → List (NewsState × NormalizedNewsItem)
  | [], _ => []
  | record :: records, s =>
    match normalizeRecord sha256 (uuid s.idsDrawn) now record with
    | .error _ => []
    | .ok item => (s.drawId, item) :: storeChecks now records (s.drawId.dedupe item).2

/-- An item with the source key or with the hash is stored. -/
def NewsState.Stored (s : NewsState) (item : NormalizedNewsItem) : Prop :=
  ∃ stored ∈ s.items.values,
    (stored.source, stored.sourceItemId) = (item.source, item.sourceItemId) ∨
      stored.contentHash = item.contentHash

/-- The stores after a batch at a time, whether it completes or raises. -/
def ingestBatch (s : NewsState) (batch : String × List NewsSourceRecord) : NewsState :=
  (ingest sha256 uuid batch.1 batch.2 s).2

/-- The records of a batch that are processed: those before the first one that is refused. -/
def processed (records : List NewsSourceRecord) : List NewsSourceRecord :=
  records.takeWhile fun record => decide record.Accepted

variable {sha256 uuid} {s : NewsState} {now : String}

private structure Deduped (s : NewsState) : Prop where
  keyed : s.items.entries.map Prod.fst =
    s.items.values.map fun item => (item.source, item.sourceItemId)
  hashed : ∀ contentHash, contentHash ∈ s.hashes ↔
    contentHash ∈ s.items.values.map (·.contentHash)
  distinct : (s.items.values.map (·.contentHash)).Nodup

private theorem Deduped.stored_iff (h : Deduped s) (item : NormalizedNewsItem) :
    s.Stored item ↔
      s.hasSourceItem item.source item.sourceItemId = true ∨ s.hasHash item.contentHash = true := by
  rw [NewsState.hasSourceItem, Dict.isSome_get?_iff, h.keyed, NewsState.hasHash,
    List.contains_iff_mem, h.hashed, List.mem_map, List.mem_map, ← exists_or]
  simp only [NewsState.Stored, and_or_left]

private theorem Deduped.persistItem (h : Deduped s) {item : NormalizedNewsItem}
    (hnew : ¬ s.Stored item) : Deduped (s.persistItem item) := by
  rw [h.stored_iff, not_or] at hnew
  have hk : s.items.get? (item.source, item.sourceItemId) = none := by
    simpa [NewsState.hasSourceItem] using hnew.1
  have hhash : item.contentHash ∉ s.items.values.map (·.contentHash) := by
    rw [← h.hashed]
    simpa [NewsState.hasHash] using hnew.2
  have hvalues : (s.persistItem item).items.values = s.items.values ++ [item] := by
    rw [Dict.values, NewsState.persistItem, Dict.entries_set item hk, List.map_append]
    rfl
  constructor
  · rw [hvalues, NewsState.persistItem, Dict.entries_set item hk, List.map_append, h.keyed,
      List.map_append]
    rfl
  · intro contentHash
    rw [hvalues, List.map_append, List.mem_append, ← h.hashed]
    simp [NewsState.persistItem, or_comm]
  · rw [hvalues, List.map_append, List.nodup_append]
    refine ⟨h.distinct, List.nodup_singleton _, ?_⟩
    rintro a ha b hb rfl
    rw [List.mem_singleton.mp hb] at ha
    exact hhash ha

private theorem Deduped.dedupe (h : Deduped s) (item : NormalizedNewsItem) :
    Deduped (s.dedupe item).2 ∧ ((s.dedupe item).1.inserted = true ↔ ¬ s.Stored item) := by
  unfold NewsState.dedupe
  split_ifs with hk hseen
  · exact ⟨h, by simp [h.stored_iff, hk]⟩
  · exact ⟨h, by simp [h.stored_iff, hseen]⟩
  · have hnew : ¬ s.Stored item := by
      rw [h.stored_iff]
      exact not_or.mpr ⟨hk, hseen⟩
    exact ⟨h.persistItem hnew, by simp [hnew]⟩

private theorem Deduped.ingestLoop (h : Deduped s) (now : String)
    (records : List NewsSourceRecord) :
    Deduped (ingestLoop sha256 uuid now records s).2 ∧
      (∀ check ∈ storeChecks sha256 uuid now records s,
        (check.1.dedupe check.2).1.inserted = true ↔ ¬ check.1.Stored check.2) ∧
      ∀ outcomes, (ingestLoop sha256 uuid now records s).1 = .ok outcomes →
        outcomes = (storeChecks sha256 uuid now records s).map
          fun check => (check.1.dedupe check.2).1 := by
  induction records generalizing s with
  | nil =>
    refine ⟨h, by simp [storeChecks], ?_⟩
    rintro outcomes ⟨⟩
    rfl
  | cons record records ih =>
    rw [News.ingestLoop, storeChecks]
    cases normalizeRecord sha256 (uuid s.idsDrawn) now record with
    | error e => exact ⟨h, by simp, by simp⟩
    | ok item =>
      have hdrawn : Deduped s.drawId := ⟨h.keyed, h.hashed, h.distinct⟩
      obtain ⟨hnext, hinserted⟩ := hdrawn.dedupe item
      obtain ⟨hlast, hchecks, houtcomes⟩ := ih hnext
      refine ⟨hlast, List.forall_mem_cons.mpr ⟨hinserted, hchecks⟩, ?_⟩
      intro outcomes hok
      obtain ⟨rest, hrest, rfl⟩ := map_eq_ok_iff.mp hok
      rw [List.map_cons, houtcomes rest hrest]

private theorem ingestLoop_snd (now : String) (records : List NewsSourceRecord) (s : NewsState) :
    (ingestLoop sha256 uuid now records s).2 =
      (ingestLoop sha256 uuid now (processed records) s).2 := by
  by_cases hall : ∀ record ∈ records, record.Accepted
  · rw [processed, List.takeWhile_eq_self_iff.mpr (by simpa using hall)]
  · obtain ⟨e, hloop⟩ := @ingestLoop_of_refused sha256 uuid now records (by simpa using hall) s
    rw [hloop]
    rfl

private theorem holds_run {record : NewsSourceRecord}
    (batches : List (String × List NewsSourceRecord))
    (h : s.Holds sha256 record ∨ ∃ batch ∈ batches, record ∈ processed batch.2) :
    (run (ingestBatch sha256 uuid) s batches).Holds sha256 record := by
  induction batches generalizing s with
  | nil => simpa using h
  | cons batch batches ih =>
    obtain ⟨outcomes, s', hloop, hingest⟩ := @ingestLoop_of_accepted sha256 uuid batch.1
      (processed batch.2) (fun record hm => by simpa using List.mem_takeWhile_imp hm) s
    have hstep : ingestBatch sha256 uuid s batch = s' :=
      (ingestLoop_snd batch.1 batch.2 s).trans (congrArg Prod.snd hloop)
    rw [run_cons, hstep]
    refine ih ?_
    rcases h with h | ⟨other, hother, hm⟩
    · exact .inl (hingest.keeps record h)
    · rcases List.mem_cons.mp hother with rfl | hother
      · exact .inl (hingest.holds record hm)
      · exact .inr ⟨other, hother, hm⟩

/-- **Deduplication.** After any batches, those that raise included, the stored items differ in
their source keys and in their hashes. Of a further batch, an item that reaches the store check is
inserted exactly when no stored item has its source key or its hash, and a batch that completes
counts each of them once. Records that were processed before insert nothing. -/
theorem ingestion_deduplicates (sha256 : String → String) (uuid : ℕ → String)
    (batches : List (String × List NewsSourceRecord)) :
    let s := run (ingestBatch sha256 uuid) {} batches
    ((s.items.values.map fun item => (item.source, item.sourceItemId)).Nodup ∧
      (s.items.values.map (·.contentHash)).Nodup) ∧
    ∀ now records,
      (∀ check ∈ storeChecks sha256 uuid now records s,
        (check.1.dedupe check.2).1.inserted = true ↔ ¬ check.1.Stored check.2) ∧
      (∀ result, (ingest sha256 uuid now records s).1 = .ok result →
        result.outcomes = (storeChecks sha256 uuid now records s).map
            (fun check => (check.1.dedupe check.2).1) ∧
          result.insertedCount + result.duplicateCount = result.totalRecords) ∧
      ((∀ record ∈ records, ∃ batch ∈ batches, record ∈ processed batch.2) →
        ∃ result, (ingest sha256 uuid now records s).1 = .ok result ∧ result.insertedCount = 0 ∧
          (ingest sha256 uuid now records s).2.items = s.items) := by
  intro s
  have hempty : Deduped {} := ⟨rfl, fun contentHash => Iff.rfl, List.nodup_nil⟩
  have hdeduped : Deduped s :=
    (throughout_of_step (fun _ batch h => (h.ingestLoop batch.1 batch.2).1) batches hempty).last
  refine ⟨⟨hdeduped.keyed ▸ s.items.nodup, hdeduped.distinct⟩, fun now records => ?_⟩
  obtain ⟨-, hchecks, houtcomes⟩ := @Deduped.ingestLoop sha256 uuid s hdeduped now records
  refine ⟨hchecks, ?_, ?_⟩
  · intro result hok
    obtain ⟨outcomes, hloop, rfl⟩ := map_eq_ok_iff.mp hok
    have hcount := outcomes.length_eq_countP_add_countP fun outcome => outcome.inserted
    simp only [Bool.not_eq_true, Bool.decide_eq_false] at hcount
    exact ⟨houtcomes outcomes hloop, hcount.symm⟩
  · intro hprocessed
    have haccepted : ∀ record ∈ records, record.Accepted := by
      intro record hmem
      obtain ⟨batch, -, hmem⟩ := hprocessed record hmem
      simpa using List.mem_takeWhile_imp hmem
    obtain ⟨outcomes, n, hloop, hnone⟩ := @ingestLoop_of_known sha256 uuid now s records haccepted
      fun record hmem => holds_run batches (.inr (hprocessed record hmem))
    rw [ingest, hloop]
    exact ⟨_, rfl, List.countP_eq_zero.mpr (by simpa using hnone), rfl⟩

end

end OpenTrader.News
