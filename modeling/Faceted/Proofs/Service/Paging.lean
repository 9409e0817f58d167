import Faceted.Proofs.Command.Ending
import Faceted.Proofs.Entries
import Mathlib

/-!
# Pages and exports

A search engine finds documents for a query and a sort, in order. A search shows a window of them, and an
export has all of them. Both go by the body of the request alone, so that what a user gets to see depends
on what the bodies hold.

* `Engine.found` and `Engine.window` say which documents a body asks for, and `Holds` that a payload has
  them as its hits.
* The bodies of a search and of an export hold the same query and the same sort (`at?_searchBody`,
  `at?_exportBody`).
* The windows of the pages, one after the other, are the documents (`flatMap_pages`), and the rank of a hit
  on the console is its place among them (`hitsLines_eq`).

`pages_cover_export` puts these together: the pages of a search show what the export has.
-/

namespace Faceted

/-! ## Search engines -/

/-- A search engine: the documents that it finds for a query and a sort, in order. -/
abbrev Engine := Value → Option Value → List Mapping

namespace Engine

/-- The documents that a body asks for, by its query and its sort. -/
def found (engine : Engine) (body : Value) : List Mapping :=
  match body.at? [.str "query"] with
  | some query => engine query (body.at? [.str "sort"])
  | none => []

/-- The number under a name of a body. -/
def number (name : String) (body : Value) : Nat :=
  match body.at? [.str name] with
  | some (.int n) => n.toNat
  | _ => 0

/-- The documents that the body of a search asks for: `size` of them from the position `from` on. -/
def window (engine : Engine) (body : Value) : List Mapping :=
  ((engine.found body).drop (number "from" body)).take (number "size" body)

/-- The payload of a response has the documents as its hits, in order. -/
def Holds (payload : Value) (documents : List Mapping) : Prop :=
  payload.at? [.str "hits", .str "hits"] = some (.list (documents.map .map))

end Engine

/-! ## Bodies -/

namespace SearchContext

theorem at?_searchBody {compiler : Compiler} {context : SearchContext} {start size : Int} {body : Value}
    (h : context.searchBody compiler start size = .ok body) :
    ∃ query sort, compiler.compile context.filters none = .ok query ∧ context.SortsBy sort ∧
      body.at? [.str "query"] = some query.toValue ∧ body.at? [.str "sort"] = sort ∧
      body.at? [.str "from"] = some (.int start) ∧ body.at? [.str "size"] = some (.int size) := by
  obtain ⟨query, sort, hquery, hsort, rfl⟩ := searchBody_eq_ok_iff.mp h
  refine ⟨query, sort, hquery, hsort, ?_⟩
  cases sort with
  | none => exact ⟨rfl, rfl, rfl, rfl⟩
  | some v => exact ⟨rfl, rfl, rfl, rfl⟩

theorem at?_exportBody {compiler : Compiler} {context : SearchContext} {body : Value}
    (h : context.exportBody compiler = .ok body) :
    ∃ query sort, compiler.compile context.filters none = .ok query ∧ context.SortsBy sort ∧
      body.at? [.str "query"] = some query.toValue ∧ body.at? [.str "sort"] = sort := by
  obtain ⟨query, sort, hquery, hsort, rfl⟩ := exportBody_eq_ok_iff.mp h
  refine ⟨query, sort, hquery, hsort, ?_⟩
  cases sort with
  | none => exact ⟨rfl, rfl⟩
  | some v => exact ⟨rfl, rfl⟩

end SearchContext

/-! ## Pages -/

section

variable {α : Type}

/-- The part of a list that is on the page with an index. -/
def pageOf (xs : List α) (size index : Nat) : List α := (xs.drop (index * size)).take size

/-- **The pages, one after the other, are the list**, as far as they go. -/
theorem flatMap_pages (xs : List α) (size n : Nat) :
    (List.range n).flatMap (pageOf xs size) = xs.take (n * size) := by
  induction n with
  | zero => simp
  | succ n ih =>
    rw [List.range_succ, List.flatMap_append, ih, Nat.succ_mul, List.take_add]
    simp [pageOf]

theorem forall₂_pageOf {β : Type} {R : α → β → Prop} {xs : List α} {ys : List β}
    (h : List.Forall₂ R xs ys) (size index : Nat) :
    List.Forall₂ R (pageOf xs size index) (pageOf ys size index) :=
  List.forall₂_take size (List.forall₂_drop (index * size) h)

theorem pageOf_eq_nil {xs : List α} {size index : Nat} (h : xs.length ≤ index * size) :
    pageOf xs size index = [] := by
  rw [pageOf, List.drop_eq_nil_of_le h, List.take_nil]

/-- What is on a page keeps its place in the whole list. -/
theorem pageOf_zipIdx (xs : List α) (size index first : Nat) :
    pageOf (xs.zipIdx first) size index = (pageOf xs size index).zipIdx (first + index * size) := by
  refine List.ext_getElem? fun j => ?_
  simp only [pageOf, List.getElem?_take, List.getElem?_drop, List.getElem?_zipIdx]
  split
  · cases xs[index * size + j]? with
    | none => rfl
    | some x => simp [Nat.add_assoc]
  · rfl

end

namespace Listing

open Number

/-- The lines of hits are those of each of them with its rank. -/
theorem hitsLines_eq (fields : List String) (rank : Nat) (hits : List SearchHit) :
    hitsLines fields rank hits =
      (hits.zipIdx rank).flatMap fun ranked => hitLines fields ranked.2 ranked.1 := by
  induction hits generalizing rank with
  | nil => rfl
  | cons hit hits ih =>
    rw [hitsLines, List.zipIdx_cons, List.flatMap_cons, ← ih (rank + 1)]
    rfl

/-- A page shows its hits with their places in the whole list, counted from one. -/
theorem pageWritten_toOption {result : SearchPage} {hits : List SearchHit} {pageSize : Int}
    (hsize : 1 ≤ pageSize) {index : Nat} (hhits : result.hits = pageOf hits pageSize.toNat index) :
    (pageWritten result [] (((index : Int) + 1 - 1) * pageSize)).toOption =
      if !exceedsDigits result.total && hitsWritable [] (index * pageSize + 1) result.hits then
        some (lines ((intText result.total ++ " document(s)".toList) ::
          (pageOf (hits.zipIdx 1) pageSize.toNat index).flatMap fun ranked => hitLines [] ranked.2 ranked.1))
      else none := by
  obtain ⟨size, rfl⟩ := Int.eq_ofNat_of_zero_le (by omega : 0 ≤ pageSize)
  have hrank : (index : Int) * size + 1 = (1 + index * size : Nat) := by
    push_cast
    omega
  rw [Int.add_sub_cancel, pageWritten, page, hrank, hitsLines_eq, hhits, Int.toNat_natCast, pageOf_zipIdx]
  split <;> rfl

end Listing

/-! ## What is read -/

/-- Where a path leads on, there is a mapping. -/
theorem Value.exists_map_of_at? {k : Key} {path : List Key} {v w : Value}
    (h : v.at? (k :: path) = some w) :
    ∃ m, v = .map m ∧ (Entries.get? k m).bind (Value.at? path) = some w := by
  cases v with
  | map m => exact ⟨m, rfl, h⟩
  | _ => cases h

theorem SearchHit.readAll_map {documents : List Mapping} {hits : List SearchHit}
    (h : List.Forall₂ (fun m hit => SearchHit.read m = .ok hit) documents hits) :
    SearchHit.readAll (documents.map .map) = .ok hits := by
  induction h with
  | nil => rfl
  | cons hread _ ih =>
    rw [List.map_cons, SearchHit.readAll, hread, ok_bind, ih]
    rfl

theorem SearchPage.read_of_holds {payload : Value} {documents : List Mapping} {hits : List SearchHit}
    (h : Engine.Holds payload documents)
    (hread : List.Forall₂ (fun m hit => SearchHit.read m = .ok hit) documents hits) :
    ∃ page, SearchPage.read payload = .ok page ∧ page.hits = hits := by
  obtain ⟨m, rfl, h⟩ := Value.exists_map_of_at? h
  obtain ⟨v, hv, h⟩ := Option.bind_eq_some_iff.mp h
  obtain ⟨part, rfl, h⟩ := Value.exists_map_of_at? h
  have hw : Entries.find? "hits" part = some (.list (documents.map .map)) := by
    simpa [Value.at?, Entries.find?] using h
  have hitems : SearchPage.items (.list (documents.map .map)) = .ok (documents.map .map) := by
    cases documents <;> rfl
  refine ⟨⟨hits, SearchPage.readTotal hits.length (Mapping.findOrNull "total" part), false⟩, ?_, rfl⟩
  rw [SearchPage.read, Value.mapping?, Option.bind_some, Mapping.findOrNull, Entries.find?, hv,
    Option.getD_some, Value.mapping?]
  dsimp only
  rw [Mapping.findOrNull, hw, Option.getD_some, hitems, ok_bind, SearchHit.readAll_map hread, ok_bind]
  rfl

namespace Service

variable {engine : Engine} {service : Service} {context : SearchContext}

/-- The documents that the body of a page asks for. -/
theorem window_pageBody (hsize : 1 ≤ service.pageSize) {index : Nat} {body : Value}
    (hbody : service.pageBody context (index + 1) = .ok body) {query : Clause Value}
    (hquery : service.compiler.compile context.filters none = .ok query) {sort : Option Value}
    (hsort : context.SortsBy sort) :
    engine.window body = pageOf (engine query.toValue sort) service.pageSize.toNat index := by
  rw [pageBody, if_neg (by omega)] at hbody
  obtain ⟨query', sort', hquery', hsort', hq, hs, hfrom, hcount⟩ := SearchContext.at?_searchBody hbody
  obtain rfl := Except.ok.inj (hquery.symm.trans hquery')
  obtain rfl := hsort.unique hsort'
  obtain ⟨size, hnat⟩ := Int.eq_ofNat_of_zero_le (by omega : 0 ≤ service.pageSize)
  have hstart : (((index : Int) + 1 - 1) * service.pageSize).toNat = index * service.pageSize.toNat := by
    rw [hnat, Int.add_sub_cancel, Int.toNat_natCast, ← Int.natCast_mul, Int.toNat_natCast]
  simp only [Engine.window, Engine.found, Engine.number, hq, hs, hfrom, hcount, pageOf, hstart]

theorem exists_pageBody {query : Clause Value}
    (hquery : service.compiler.compile context.filters none = .ok query) {sort : Option Value}
    (hsort : context.SortsBy sort) (index : Nat) : ∃ body, service.pageBody context (index + 1) = .ok body := by
  rw [pageBody, if_neg (by omega)]
  exact ⟨_, SearchContext.searchBody_eq_ok_iff.mpr ⟨query, sort, hquery, hsort, rfl⟩⟩

theorem exists_exportBody {query : Clause Value}
    (hquery : service.compiler.compile context.filters none = .ok query) {sort : Option Value}
    (hsort : context.SortsBy sort) : ∃ body, context.exportBody service.compiler = .ok body :=
  ⟨_, SearchContext.exportBody_eq_ok_iff.mpr ⟨query, sort, hquery, hsort, rfl⟩⟩

end Service

namespace Command

variable {σ : Type} {respond : σ → BackendCall → BackendReply × σ} {known : σ} {command : Command}
  {settings : Settings} {place : Workplace}

/-- The text of a search whose call is answered is the page that the answer holds. -/
theorem text_search {service : Service} {context : SearchContext} {page : Int} {body : Value}
    {answer : BackendAnswer} {result : SearchPage}
    (hcontext : command.context settings place.dates place.tree = .ok context)
    (haction : command.action = .search page) (hbody : service.pageBody context page = .ok body)
    (hanswer : (respond known (.search body)).1.answer = .ok answer)
    (hread : SearchPage.read answer.payload = .ok result) :
    command.text respond known settings service place =
      Listing.pageWritten result [] ((page - 1) * service.pageSize) := by
  rw [text, hcontext, ok_bind, haction, Action.operation, outcome_search, hbody, ok_bind, hanswer, ok_bind,
    hread, Except.map, ok_bind, output, haction]
  rfl

end Command

namespace Service

open Number

/--
**The pages of a search show the documents that an export has.**

For an engine of any kind and pages of at least one document:

* The body of an export can be built if that of a search can, whatever its window is; else both fail for
  the same fault. Both hold the sort of the context as the mappings that it makes up, and no sort if the
  context has none.
* Let the engine find documents for the compiled query and this sort that can be read as hits. The pages of
  these hits, one after the other, are the hits, and a page past the end is empty. Each search is sent, and from
  each answer that holds the documents that its body asks for it returns its page. A search command prints in
  front of each hit its place among all hits, counted from one; it prints nothing only if it comes to an
  integer that is too long.
* An export is sent, and its body asks for all of the documents.
-/
theorem pages_cover_export (engine : Engine) {service : Service} (hsize : 1 ≤ service.pageSize)
    (context : SearchContext) :
    (∀ start size fault, context.searchBody service.compiler start size = .error fault ↔
      context.exportBody service.compiler = .error fault) ∧
    (∀ body, (∃ start size, context.searchBody service.compiler start size = .ok body) ∨
        context.exportBody service.compiler = .ok body →
      context.SortsBy (body.at? [.str "sort"])) ∧
    ∀ query sort hits, service.compiler.compile context.filters none = .ok query → context.SortsBy sort →
      List.Forall₂ (fun m hit => SearchHit.read m = .ok hit) (engine query.toValue sort) hits →
      (∀ n, (List.range n).flatMap (pageOf hits service.pageSize.toNat) =
        hits.take (n * service.pageSize.toNat)) ∧
      (∀ index, hits.length ≤ index * service.pageSize.toNat →
        pageOf hits service.pageSize.toNat index = []) ∧
      (∀ index : Nat, ∃ body next records,
        service.issue (.search context (index + 1)) =
          (.sent (.search body) (.search (index + 1) next.generation), next, records) ∧
        ∀ answer : BackendAnswer, Engine.Holds answer.payload (engine.window body) →
          ∃ result, result.hits = pageOf hits service.pageSize.toNat index ∧
            (∀ (after : Service) tree,
              (after.complete tree (.search (index + 1) next.generation) (.ok answer)).1 =
                .ok (.page (after.marked next.generation result))) ∧
            ∀ (command : Command) settings prebuilt place {σ : Type} respond (known : σ),
              command.action = .search (index + 1) →
              command.context settings place.dates place.tree = .ok context →
              prebuilt.getD settings.service = service →
              (respond known (.search body)).1.answer = .ok answer →
              ((command.run settings prebuilt place).run respond known).2.1.1 =
                if !exceedsDigits result.total &&
                    Listing.hitsWritable [] (index * service.pageSize + 1) result.hits then
                  some (Listing.lines ((intText result.total ++ " document(s)".toList) ::
                    (pageOf (hits.zipIdx 1) service.pageSize.toNat index).flatMap fun ranked =>
                      Listing.hitLines [] ranked.2 ranked.1))
                else none) ∧
      ∀ path, ∃ body records,
        service.issue (.save context path) =
          (.sent (.download path.name body) (.save path), service, records) ∧
        engine.found body = engine query.toValue sort := by
  refine ⟨fun _ _ _ => SearchContext.searchBody_eq_error_iff, ?_, ?_⟩
  · rintro body (⟨start, size, hbody⟩ | hbody)
    · obtain ⟨-, _, -, hsort, -, hs, -⟩ := SearchContext.at?_searchBody hbody
      rwa [hs]
    · obtain ⟨-, _, -, hsort, -, hs⟩ := SearchContext.at?_exportBody hbody
      rwa [hs]
  · intro query sort hits hquery hsort hread
    refine ⟨flatMap_pages hits _, fun index => pageOf_eq_nil, fun index => ?_, fun path => ?_⟩
    · obtain ⟨body, hbody⟩ := exists_pageBody hquery hsort index
      refine ⟨body, { service with generation := service.generation + 1 },
        service.pageRecords context (index + 1), by simp only [issue, hbody], ?_⟩
      intro answer hanswer
      rw [window_pageBody hsize hbody hquery hsort] at hanswer
      obtain ⟨result, hresult, hhits⟩ := SearchPage.read_of_holds hanswer (forall₂_pageOf hread _ index)
      refine ⟨result, hhits, ?_, ?_⟩
      · intro after tree
        simp [complete, completeSearch, hresult, Except.map]
      · intro command settings prebuilt place σ respond known haction hcontext hservice hsent
        subst hservice
        obtain ⟨after, last, hrun, -⟩ := Command.run_run respond known command settings prebuilt place
        rw [hrun]
        dsimp only
        rw [Command.text_search hcontext haction hbody hsent hresult, Listing.pageWritten_toOption hsize hhits]
    · obtain ⟨body, hbody⟩ := exists_exportBody hquery hsort
      obtain ⟨query', sort', hquery', hsort', hq, hs⟩ := SearchContext.at?_exportBody hbody
      obtain rfl := Except.ok.inj (hquery.symm.trans hquery')
      obtain rfl := hsort.unique hsort'
      exact ⟨body, service.compiler.records context.filters none, by simp only [issue, hbody],
        by simp only [Engine.found, hq, hs]⟩

/-- Three documents on pages of two: the second page has the third one, which the search command prints as
such, and the export asks for all. -/
theorem pages_cover_export_three :
    let document (id : String) : Mapping := [(.str "_id", .str id)]
    let hit (id : String) : SearchHit := ⟨id, [], []⟩
    let engine : Engine := fun _ _ => [document "a", document "b", document "c"]
    let service : Service := ⟨⟨⟨[]⟩, ["ocr"]⟩, "acts", 2, 0⟩
    let context : SearchContext := ⟨[], none, some "acts"⟩
    let payload : Value := .object [("hits", .object
      [("total", .int 3), ("hits", .list [.map (document "c")])])]
    let respond (count : Nat) (_ : BackendCall) : BackendReply × Nat :=
      (⟨.ok ⟨payload, []⟩, []⟩, count + 1)
    let command : Command := ⟨.search 2, none, none⟩
    (List.range 2).flatMap (pageOf [hit "a", hit "b", hit "c"] 2) = [hit "a", hit "b", hit "c"] ∧
      (∃ body next records,
        service.issue (.search context 2) =
          (.sent (.search body) (.search 2 next.generation), next, records) ∧
        Engine.Holds payload (engine.window body) ∧
        ∃ result : SearchPage, result.hits = [hit "c"] ∧
          (∀ (after : Service) tree,
            (after.complete tree (.search 2 next.generation) (.ok ⟨payload, []⟩)).1 =
              .ok (.page (after.marked next.generation result))) ∧
          ∀ (settings : Settings) (place : Workplace), settings.backend.index = "acts" →
            ((command.run settings (some service) place).run respond 0).2.1.1 =
              some "3 document(s)\n3. c\n") ∧
      ∃ body records, service.issue (.save context (.ofString "acts.csv")) =
          (.sent (.download "acts.csv" body) (.save (.ofString "acts.csv")), service, records) ∧
        engine.found body = [document "a", document "b", document "c"] := by
  intro document hit engine service context payload respond command
  obtain ⟨-, -, hall⟩ := pages_cover_export engine (show 1 ≤ service.pageSize by decide) context
  have hread : List.Forall₂ (fun m hit => SearchHit.read m = .ok hit)
      [document "a", document "b", document "c"] [hit "a", hit "b", hit "c"] :=
    .cons (by rfl) (.cons (by rfl) (.cons (by rfl) .nil))
  obtain ⟨hpages, -, hsearch, hsave⟩ := hall .matchAll _ _ rfl (.unsorted rfl) hread
  refine ⟨hpages 2, ?_, hsave _⟩
  obtain ⟨body, next, records, hissue, hanswers⟩ := hsearch 1
  have hbody : service.pageBody context 2 = .ok body := by
    rw [← BackendCall.search.inj (Issued.sent.inj (congrArg Prod.fst hissue)).1]
    rfl
  have hholds : Engine.Holds payload (engine.window body) := by
    rw [window_pageBody (by decide) hbody rfl (.unsorted rfl)]
    rfl
  obtain ⟨result, hhits, hcomplete, hprinted⟩ := hanswers ⟨payload, []⟩ hholds
  refine ⟨body, next, records, hissue, hholds, result, hhits, hcomplete, fun settings place hindex => ?_⟩
  have hcontext : command.context settings place.dates place.tree = .ok context := by
    rw [Command.context, hindex]
    rfl
  rw [hprinted command settings (some service) place respond 0 rfl hcontext rfl rfl]
  have htotal : result.total = 3 := by
    have hpage := Outcome.page.inj (Except.ok.inj (hcomplete service place.tree))
    exact (congrArg SearchPage.total hpage).symm
  rw [htotal, hhits]
  cbv

end Service

end Faceted
