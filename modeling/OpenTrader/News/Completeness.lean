import OpenTrader.News.Ingestion

/-!
# Completeness of the news pipeline

Library `News`. Items are tagged after a batch is stored, and a record that the ingestion refuses
ends the batch: what was stored before it stays without a tag, and what follows it is not stored.
-/

namespace OpenTrader.News
open Base

/-! ### A cycle -/

/-- The records of one source in a cycle; none when it is degraded. -/
def NewsCycle.recordsOf (cycle : NewsCycle) (connector : String × ConnectorKind) :
    List NewsSourceRecord :=
  (fetchIsolated cycle.now 10 cycle.fetched connector).items

/-- The records of all sources in a cycle, in the order of the connectors. -/
def SourceConnectorRegistry.records (registry : SourceConnectorRegistry) (cycle : NewsCycle) :
    List NewsSourceRecord :=
  registry.listConnectors.flatMap cycle.recordsOf

/-- Every stored item has exactly one tag. -/
def NewsState.Tagged (s : NewsState) : Prop :=
  ∀ item ∈ s.items.values, s.tags.countP (fun tag => tag.newsId = item.newsId) = 1

instance (s : NewsState) : Decidable s.Tagged :=
  inferInstanceAs (Decidable (∀ item ∈ s.items.values, _ = 1))

section

variable (sha256 : String → String) (uuid : ℕ → String) (registry : SourceConnectorRegistry)

/-- A source whose record is refused keeps no accepted record of another source out of the store. -/
def Unblocked (s : NewsState) (cycle : NewsCycle) : Prop :=
  ∀ refusing ∈ registry.connectors.entries, (∃ bad ∈ cycle.recordsOf refusing, ¬ bad.Accepted) →
    ∀ other ∈ registry.connectors.entries, other ≠ refusing →
      ∀ record ∈ cycle.recordsOf other, record.Accepted → s.Holds sha256 record

instance (s : NewsState) (cycle : NewsCycle) : Decidable (Unblocked sha256 registry s cycle) :=
  inferInstanceAs (Decidable (∀ refusing ∈ registry.connectors.entries, _ → _))

/-- When a record is refused, there is nothing to lose: the records before the first one that is
refused are known, and so are the accepted ones of every source beside one with a refused record. -/
def Smooth (s : NewsState) (cycle : NewsCycle) : Prop :=
  (∃ record ∈ registry.records cycle, ¬ record.Accepted) →
    (∀ record ∈ (registry.records cycle).takeWhile fun record => decide record.Accepted,
        s.Holds sha256 record) ∧
      Unblocked sha256 registry s cycle

instance (s : NewsState) (cycle : NewsCycle) : Decidable (Smooth sha256 registry s cycle) :=
  inferInstanceAs (Decidable (_ → _ ∧ _))

/-- The stores after a cycle, whether it ends normally or with an exception. -/
def newsStep (s : NewsState) (cycle : NewsCycle) : NewsState :=
  (runOnce sha256 uuid registry s cycle).2

/-- The ids of tags and items are among those drawn. -/
structure Accounted (s : NewsState) : Prop where
  tag_ids : ∀ tag ∈ s.tags, ∃ n < s.idsDrawn, tag.newsId = uuid n
  item_ids : ∀ item ∈ s.items.values, ∃ n < s.idsDrawn, item.newsId = uuid n

variable {sha256 uuid registry} {s : NewsState} {cycle : NewsCycle}

private theorem fetchCycle_records (cycle : NewsCycle) :
    ∃ result, registry.fetchCycle cycle.now 10 [] cycle.fetched = .ok result ∧
      result.items = registry.records cycle ∧
      result.totalItems = (registry.records cycle).length := by
  have hall : (registry.listConnectors.filter fun _ => true) = registry.listConnectors := by simp
  simp only [SourceConnectorRegistry.fetchCycle, SourceConnectorRegistry.records,
    List.isEmpty_nil, Bool.true_or, hall, List.flatMap_map]
  exact ⟨_, rfl, rfl, rfl⟩

private theorem newsStep_of_ok {outcomes : List NewsIngestionOutcome} {s' : NewsState}
    (h : ingestLoop sha256 uuid cycle.now (registry.records cycle) s = (.ok outcomes, s')) :
    newsStep sha256 uuid registry s cycle = s'.tagItems (insertedOf outcomes) := by
  obtain ⟨result, hres, hitems, htotal⟩ := @fetchCycle_records registry cycle
  have hn : s'.tagItems [] = s' := by simp [NewsState.tagItems]
  unfold newsStep runOnce
  simp only [hres, hitems, htotal, ingest, h]
  by_cases hempty : registry.records cycle = []
  · rw [hempty, ingestLoop] at h
    cases h
    simp [hempty, insertedOf, hn]
  · rw [if_neg (by simpa using hempty)]
    change Prod.snd (if (insertedOf outcomes).isEmpty then _ else _) = _
    by_cases hinserted : insertedOf outcomes = []
    · simp [hinserted, hn]
    · rw [if_neg (by simpa using hinserted)]
      cases cycle.summarized <;> rfl

private theorem newsStep_of_error {e : String} {s' : NewsState}
    (h : ingestLoop sha256 uuid cycle.now (registry.records cycle) s = (.error e, s')) :
    newsStep sha256 uuid registry s cycle = s' := by
  obtain ⟨result, hres, hitems, htotal⟩ := @fetchCycle_records registry cycle
  unfold newsStep runOnce
  simp only [hres, hitems, htotal, ingest, h]
  rw [if_neg]
  · rfl
  · intro hempty
    rw [List.length_eq_zero_iff.mp hempty, ingestLoop] at h
    cases h

private theorem newsStep_of_accepted (h : ∀ record ∈ registry.records cycle, record.Accepted)
    (s : NewsState) :
    ∃ inserted s', Ingested sha256 uuid s (registry.records cycle) inserted s' ∧
      newsStep sha256 uuid registry s cycle = s'.tagItems inserted := by
  obtain ⟨outcomes, s', hloop, hingest⟩ := @ingestLoop_of_accepted sha256 uuid cycle.now _ h s
  exact ⟨insertedOf outcomes, s', hingest, newsStep_of_ok hloop⟩

private theorem newsStep_of_refused (h : ∃ record ∈ registry.records cycle, ¬ record.Accepted)
    (s : NewsState) :
    ∃ inserted, Ingested sha256 uuid s
      ((registry.records cycle).takeWhile fun record => decide record.Accepted) inserted
      (newsStep sha256 uuid registry s cycle) := by
  obtain ⟨e, hloop⟩ := @ingestLoop_of_refused sha256 uuid cycle.now _ h s
  have hacc : ∀ record ∈ (registry.records cycle).takeWhile fun record =>
      decide record.Accepted, record.Accepted := by
    intro record hrec
    have hdecided := List.mem_takeWhile_imp hrec
    exact of_decide_eq_true hdecided
  obtain ⟨outcomes, s', hbefore, hingest⟩ :=
    @ingestLoop_of_accepted sha256 uuid cycle.now _ hacc s
  rw [newsStep_of_error hloop, hbefore]
  exact ⟨insertedOf outcomes, hingest⟩

/-! ### Tags and ids -/

variable {records : List NewsSourceRecord} {inserted : List NormalizedNewsItem} {s' : NewsState}

private theorem Ingested.fresh (h : Ingested sha256 uuid s records inserted s')
    {item : NormalizedNewsItem} (hitem : item ∈ inserted) :
    ∃ n, s.idsDrawn ≤ n ∧ n < s'.idsDrawn ∧ item.newsId = uuid n := by
  have hid := h.ids.subset (List.mem_map_of_mem hitem)
  obtain ⟨n, hn, hid⟩ := List.mem_map.mp hid
  rw [List.mem_range'_1] at hn
  exact ⟨n, hn.1, h.drawn ▸ hn.2, hid.symm⟩

private theorem Accounted.ingested (hs : Accounted uuid s)
    (h : Ingested sha256 uuid s records inserted s') : Accounted uuid s' where
  tag_ids tag htag := by
    rw [h.tags_eq] at htag
    obtain ⟨n, hn, hid⟩ := hs.tag_ids tag htag
    exact ⟨n, by rw [h.drawn]; omega, hid⟩
  item_ids item hitem := by
    rcases (h.items item).mp hitem with hitem | hitem
    · obtain ⟨n, hn, hid⟩ := hs.item_ids item hitem
      exact ⟨n, by rw [h.drawn]; omega, hid⟩
    · obtain ⟨n, -, hn, hid⟩ := h.fresh hitem
      exact ⟨n, hn, hid⟩

private theorem Accounted.tagItems (hs : Accounted uuid s')
    (h : Ingested sha256 uuid s records inserted s') : Accounted uuid (s'.tagItems inserted) where
  tag_ids tag htag := by
    rcases List.mem_append.mp htag with htag | htag
    · exact hs.tag_ids tag htag
    · obtain ⟨item, hitem, rfl⟩ := List.mem_map.mp htag
      obtain ⟨n, -, hn, hid⟩ := h.fresh hitem
      exact ⟨n, hn, hid⟩
  item_ids := hs.item_ids

private theorem accounted_newsStep (hs : Accounted uuid s) (cycle : NewsCycle) :
    Accounted uuid (newsStep sha256 uuid registry s cycle) := by
  by_cases h : ∃ record ∈ registry.records cycle, ¬ record.Accepted
  · obtain ⟨inserted, hingest⟩ := newsStep_of_refused h s
    exact hs.ingested hingest
  · push Not at h
    obtain ⟨inserted, s', hingest, hstep⟩ := newsStep_of_accepted h s
    rw [hstep]
    exact (hs.ingested hingest).tagItems hingest

variable (hids : Function.Injective uuid)

include hids in
private theorem countP_of_fresh (hs : Accounted uuid s) {n : ℕ} (hn : s.idsDrawn ≤ n) :
    s.tags.countP (fun tag => tag.newsId = uuid n) = 0 := by
  rw [List.countP_eq_zero]
  intro tag htag
  obtain ⟨m, hm, hid⟩ := hs.tag_ids tag htag
  simp only [hid, decide_eq_true_eq]
  intro heq
  have := hids heq
  omega

include hids in
private theorem tagged_tagItems (hs : Accounted uuid s) (htagged : s.Tagged)
    (h : Ingested sha256 uuid s records inserted s') : (s'.tagItems inserted).Tagged := by
  have hnodup : (inserted.map (·.newsId)).Nodup :=
    (List.Nodup.map hids List.nodup_range').sublist h.ids
  intro item hitem
  have hnew : (inserted.map tagOf).countP (fun tag => tag.newsId = item.newsId) =
      (inserted.map (·.newsId)).count item.newsId := by
    rw [List.countP_map, List.count, List.countP_map]
    congr 1
  change (s'.tags ++ inserted.map tagOf).countP _ = 1
  rw [List.countP_append, h.tags_eq, hnew]
  rcases (h.items item).mp hitem with hitem | hitem
  · -- an item from before has its tag, and none of the new ids
    have hnone : (inserted.map (·.newsId)).count item.newsId = 0 := by
      rw [List.count_eq_zero]
      intro hmem
      obtain ⟨other, hother, heq⟩ := List.mem_map.mp hmem
      obtain ⟨n, hn, -, hid⟩ := h.fresh hother
      obtain ⟨m, hm, hid'⟩ := hs.item_ids item hitem
      have := hids (hid.symm.trans (heq.trans hid'))
      omega
    rw [htagged item hitem, hnone]
  · obtain ⟨n, hn, -, hid⟩ := h.fresh hitem
    rw [List.count_eq_one_of_mem hnodup (List.mem_map_of_mem hitem), hid,
      countP_of_fresh hids hs hn]

include hids in
private theorem tagged_iff_of_ingested (hs : Accounted uuid s) (htagged : s.Tagged)
    (h : Ingested sha256 uuid s records inserted s') : s'.Tagged ↔ inserted = [] := by
  constructor
  · intro htagged'
    by_contra hne
    obtain ⟨item, hitem⟩ := List.exists_mem_of_ne_nil inserted hne
    obtain ⟨n, hn, -, hid⟩ := h.fresh hitem
    have hone := htagged' item ((h.items item).mpr (.inr hitem))
    rw [h.tags_eq, hid, countP_of_fresh hids hs hn] at hone
    cases hone
  · intro hnil
    have hitems := (h.unchanged hnil).1
    unfold NewsState.Tagged
    rw [hitems, h.tags_eq]
    exact htagged

private theorem Ingested.nil_iff (h : Ingested sha256 uuid s records inserted s') :
    inserted = [] ↔ ∀ record ∈ records, s.Holds sha256 record := by
  refine ⟨fun hnil record hrec => ?_, h.known⟩
  obtain ⟨hitems, hhashes⟩ := h.unchanged hnil
  have hholds := h.holds record hrec
  unfold NewsState.Holds NewsState.hasSourceItem NewsState.hasHash at hholds ⊢
  rwa [hitems, hhashes] at hholds

include hids in
private theorem cycle_complete_iff (hs : Accounted uuid s) (htagged : s.Tagged)
    (cycle : NewsCycle) :
    (newsStep sha256 uuid registry s cycle).Tagged ∧
        Unblocked sha256 registry (newsStep sha256 uuid registry s cycle) cycle ↔
      Smooth sha256 registry s cycle := by
  by_cases h : ∃ record ∈ registry.records cycle, ¬ record.Accepted
  · obtain ⟨inserted, hingest⟩ := @newsStep_of_refused sha256 uuid registry cycle h s
    rw [Smooth, forall_prop_of_true h, tagged_iff_of_ingested hids hs htagged hingest,
      hingest.nil_iff]
    refine and_congr_right fun hknown => ?_
    obtain ⟨hitems, hhashes⟩ := hingest.unchanged (hingest.known hknown)
    unfold Unblocked NewsState.Holds NewsState.hasSourceItem NewsState.hasHash
    rw [hitems, hhashes]
  · refine iff_of_true ⟨?_, ?_⟩ fun hbad => absurd hbad h
    · push Not at h
      obtain ⟨inserted, s', hingest, hstep⟩ :=
        @newsStep_of_accepted sha256 uuid registry cycle h s
      rw [hstep]
      exact tagged_tagItems hids hs htagged hingest
    · rintro refusing hrefusing ⟨bad, hm, hbad⟩
      refine absurd ⟨bad, List.mem_flatMap.mpr ⟨refusing, ?_, hm⟩, hbad⟩ h
      exact (List.perm_insertionSort _ _).mem_iff.mpr hrefusing

/-- **Completeness.** In a run of cycles from empty stores every stored item has exactly one tag
after each cycle and no refused record keeps accepted records of other sources out, exactly when
every cycle is smooth. -/
theorem news_complete_iff (hids : Function.Injective uuid) (cycles : List NewsCycle) :
    Throughout (newsStep sha256 uuid registry) NewsState.Tagged {} cycles ∧
        Along (newsStep sha256 uuid registry)
          (fun s cycle => Unblocked sha256 registry (newsStep sha256 uuid registry s cycle) cycle)
          {} cycles ↔
      Along (newsStep sha256 uuid registry) (Smooth sha256 registry) {} cycles := by
  have hempty : ({} : NewsState).Tagged := by
    intro item hitem
    cases hitem
  have haccounted : Accounted uuid {} := by
    refine ⟨fun tag htag => ?_, fun item hitem => ?_⟩
    · cases htag
    · cases hitem
  rw [throughout_iff_along_step, and_iff_right hempty, ← along_and_iff]
  refine @along_iff_along _ _ _ (fun s => Accounted uuid s ∧ s.Tagged) _ _ _ _ (fun _ => True)
    ?_ ?_ (fun _ _ => trivial) ⟨haccounted, hempty⟩
  · rintro s cycle ⟨hs, htagged⟩ - hsmooth
    exact ⟨accounted_newsStep hs cycle, ((cycle_complete_iff hids hs htagged cycle).mpr hsmooth).1⟩
  · rintro s cycle ⟨hs, htagged⟩ -
    exact cycle_complete_iff hids hs htagged cycle

end

/-! ### Two sources -/

private theorem injective_replicate :
    Function.Injective fun n => String.ofList (List.replicate n 'i') := by
  intro m n h
  have hlen := congrArg List.length (String.ofList_injective h)
  simpa using hlen

/-- Two feeds. -/
def twoFeeds : SourceConnectorRegistry :=
  ⟨(Dict.empty.set "rss.a" .rss).set "rss.b" .rss⟩

/-- A headline of a feed, with or without a link. -/
def headline (sourceItemId title : String) (url : Option String) : RawItem :=
  .record { source := "feed", sourceItemId, publishedAt := "2026-03-01T09:00:00Z", title, url }

/-- A cycle in which the first feed returns these items and the second one a headline. -/
def feedCycle (items : List RawItem) : NewsCycle where
  now := "2026-03-01T09:00:01Z"
  fetched connectorId :=
    if connectorId = "rss.a" then .ok items
    else .ok [headline "b-1" "ETH staking update" (some "https://b/1")]

/-- Two cycles with the same headlines: all are tagged in the first one. -/
theorem news_complete_linked :
    let uuid := fun n => String.ofList (List.replicate n 'i')
    let cycle := feedCycle [headline "a-1" "BTC ETF approval" (some "https://a/1")]
    Throughout (newsStep id uuid twoFeeds) NewsState.Tagged {} [cycle, cycle] := by
  intro uuid cycle
  apply ((news_complete_iff injective_replicate [cycle, cycle]).mpr ?_).1
  decide +kernel

/-- The first feed returns a headline with a link and one without: the first one is stored and never
tagged, and the headline of the second feed is not stored. -/
theorem news_lost_after_refused_record :
    let uuid := fun n => String.ofList (List.replicate n 'i')
    let cycle := feedCycle [headline "a-1" "BTC ETF approval" (some "https://a/1"),
      headline "a-2" "SOL outage" none]
    let s := newsStep id uuid twoFeeds {} cycle
    ¬ s.Tagged ∧ ¬ Unblocked id twoFeeds s cycle := by
  decide +kernel

end OpenTrader.News
