import Faceted.Proofs.Settings.Accepted
import Faceted.Proofs.Text.Blank
import Faceted.Proofs.Text.Split
import Faceted.Service.Settings

/-!
# The addresses that calls are posted to

The address of a call is put together from the address of the server, which loses the slashes at its end, and from
the search path, which loses those at both ends. So the number of these slashes makes no difference
(`HttpClient.url_of_sameUpToSlashes`), and single slashes stand between the parts.

What is left of a part can be empty, though, and nothing that is asked of settings rules that out: a search path
of slashes alone leaves an address that ends in a slash, and behind a scheme without a server its own slashes are
taken away as well. `endpoints_of_accepted` says for which settings the addresses are whole.
-/

namespace Faceted

open Text Settings

/-! ## Addresses in segments -/

/-- The text is made of segments with single slashes between them: no segment is empty, and there is one. -/
def Segmented (cs : List Char) : Prop :=
  ∃ segments : List (List Char), segments ≠ [] ∧ (∀ segment ∈ segments, segment ≠ [] ∧ '/' ∉ segment) ∧
    cs = joinWith ['/'] segments

theorem segmented_iff {cs : List Char} : Segmented cs ↔ [] ∉ cs.splitOn '/' := by
  constructor
  · rintro ⟨segments, hne, hsegments, rfl⟩ hmem
    rw [joinWith_eq, List.splitOn_intercalate '/' (fun segment h => (hsegments segment h).2) hne] at hmem
    exact (hsegments [] hmem).1 rfl
  · intro h
    refine ⟨cs.splitOn '/', List.splitOn_ne_nil '/' cs, fun segment hmem => ⟨?_, not_mem_of_mem_splitOn hmem⟩,
      ?_⟩
    · rintro rfl
      exact h hmem
    · rw [joinWith_eq, List.intercalate_splitOn]

instance (cs : List Char) : Decidable (Segmented cs) := decidable_of_iff _ segmented_iff.symm

theorem segmented_append_iff {front back : List Char} :
    Segmented (front ++ '/' :: back) ↔ Segmented front ∧ Segmented back := by
  rw [segmented_iff, segmented_iff, segmented_iff, List.splitOn_append_cons_self, List.mem_append, not_or]

theorem segmented_iff_of_not_mem {cs : List Char} (h : '/' ∉ cs) : Segmented cs ↔ cs ≠ [] := by
  rw [segmented_iff, List.splitOn_eq_singleton h, List.mem_singleton, eq_comm]

/-- The text is there, and no slash of it comes right after another one, with one slash before the text. -/
structure Unbroken (cs : List Char) : Prop where
  here : cs ≠ []
  single : ¬['/', '/'] <:+: '/' :: cs

/-- A text that does not end in a slash is made of segments if it is there and has no doubled slash. -/
theorem segmented_iff_unbroken {cs : List Char} (h : cs.getLast? ≠ some '/') : Segmented cs ↔ Unbroken cs := by
  have hlast : ['/', '/'] <:+ '/' :: cs ++ ['/'] ↔ cs = [] := by
    constructor
    · intro hsuffix
      obtain hnil | ⟨before, hbefore, hsuffix⟩ := List.suffix_concat_iff.mp hsuffix
      · cases hnil
      obtain rfl : ['/'] = before := List.append_cancel_right hbefore
      obtain heq | ⟨before, rfl⟩ := List.suffix_cons_iff.mp hsuffix
      · exact (List.cons.inj heq).2.symm
      · exact absurd List.getLast?_concat h
    · rintro rfl
      exact List.suffix_rfl
  rw [segmented_iff, nil_mem_splitOn_iff, ← List.cons_append, List.infix_concat_iff, hlast, not_or]
  exact ⟨fun ⟨here, single⟩ => ⟨here, single⟩, fun ⟨here, single⟩ => ⟨here, single⟩⟩

/-- The schemes of the web. -/
def webSchemes : List String := ["http://", "https://"]

/-- An address is a scheme of the web and segments after it. -/
def IsEndpoint (url : String) : Prop :=
  ∃ scheme ∈ webSchemes, ∃ rest, url.toList = scheme.toList ++ rest ∧ Segmented rest

theorem isEndpoint_iff {url scheme : String} {rest : List Char} (hscheme : scheme ∈ webSchemes)
    (hurl : url.toList = scheme.toList ++ rest) : IsEndpoint url ↔ Segmented rest := by
  refine ⟨?_, fun h => ⟨scheme, hscheme, rest, hurl, h⟩⟩
  rintro ⟨other, hother, others, hothers, h⟩
  -- neither scheme begins with the other one
  have hrest : others = rest := by
    rw [hurl] at hothers
    simp only [webSchemes, List.mem_cons, List.not_mem_nil, or_false] at hscheme hother
    obtain rfl | rfl := hscheme <;> obtain rfl | rfl := hother <;> simp_all
  rwa [hrest] at h

/-- Without a server the scheme loses its slashes, and there is one after it. -/
theorem isEndpoint_iff_of_no_server {url scheme : String} {tail : List Char} (hscheme : scheme ∈ webSchemes)
    (hurl : url.toList = dropTrailing '/' scheme.toList ++ '/' :: tail) :
    IsEndpoint url ↔ ∃ rest, tail = '/' :: rest ∧ Segmented rest := by
  constructor
  · rintro ⟨other, hother, rest, hrest, h⟩
    refine ⟨rest, ?_, h⟩
    rw [hurl] at hrest
    simp only [webSchemes, List.mem_cons, List.not_mem_nil, or_false] at hscheme hother
    obtain rfl | rfl := hscheme <;> obtain rfl | rfl := hother <;> simp_all [dropTrailing, dropLeading]
  · rintro ⟨rest, rfl, h⟩
    refine ⟨scheme, hscheme, rest, ?_, h⟩
    rw [hurl]
    simp only [webSchemes, List.mem_cons, List.not_mem_nil, or_false] at hscheme
    obtain rfl | rfl := hscheme <;> rfl

/-! ## Settings and their slashes -/

/-- The parts that the addresses are put together from: the scheme and the server of the address, and the search
path, with the slashes around them left out. -/
structure BackendSettings.Located (settings : BackendSettings) (scheme : String) (server path : List Char) :
    Prop where
  web : scheme ∈ webSchemes
  apiPath : ∃ n, settings.apiPath.toList = scheme.toList ++ server ++ fill '/' n
  server : server.getLast? ≠ some '/'
  searchPath : ∃ m n, settings.searchPath.toList = fill '/' m ++ path ++ fill '/' n
  first : path.head? ≠ some '/'
  last : path.getLast? ≠ some '/'

/-- Both have the same address up to the number of slashes at its end, and the same search path up to the numbers
of slashes at its ends. -/
structure BackendSettings.SameUpToSlashes (settings others : BackendSettings) : Prop where
  apiPath : ∃ base m n, settings.apiPath.toList = base ++ fill '/' m ∧ others.apiPath.toList = base ++ fill '/' n
  searchPath : ∃ base k l m n, settings.searchPath.toList = fill '/' k ++ base ++ fill '/' l ∧
    others.searchPath.toList = fill '/' m ++ base ++ fill '/' n

variable {settings : Settings} {scheme : String} {server path : List Char}

/-- Settings that are accepted have such parts. -/
theorem BackendSettings.WellFormed.exists_located {settings : BackendSettings} (h : settings.WellFormed) :
    ∃ scheme server path, settings.Located scheme server path := by
  obtain ⟨scheme, hscheme, rest, hrest⟩ : ∃ scheme ∈ webSchemes, ∃ rest, settings.apiPath = scheme ++ rest := by
    obtain ⟨rest, h | h⟩ := h.apiPath
    · exact ⟨"http://", by decide, rest, h⟩
    · exact ⟨"https://", by decide, rest, h⟩
  obtain ⟨server, n, hserver, hlast⟩ := exists_append_fill '/' rest.toList
  obtain ⟨k, path, l, hpath, hends⟩ := exists_fill_append_fill '/' settings.searchPath.toList
  refine ⟨scheme, server, path, hscheme, ⟨n, ?_⟩, hlast, ⟨k, l, hpath⟩, hends.1, hends.2⟩
  rw [hrest, String.toList_append, hserver, List.append_assoc]

namespace HttpClient

/-- **The number of slashes makes no difference** to any address. -/
theorem url_of_sameUpToSlashes {others : Settings} (h : settings.backend.SameUpToSlashes others.backend)
    (call : BackendCall) : settings.client.url call = others.client.url call := by
  obtain ⟨base, m, n, hsettings, hothers⟩ := h.apiPath
  have hapi : settings.client.apiPath = others.client.apiPath := by
    simp only [Settings.client, make]
    rw [hsettings, hothers, dropTrailing_append_fill, dropTrailing_append_fill]
  obtain ⟨base, k, l, m, n, hsettings, hothers⟩ := h.searchPath
  have hsearch : settings.client.searchPath = others.client.searchPath := by
    simp only [Settings.client, make]
    rw [hsettings, hothers, dropTrailing_dropLeading_around, dropTrailing_dropLeading_around]
  have hsearchUrl : settings.client.searchUrl = others.client.searchUrl := by
    rw [searchUrl, searchUrl, hapi, hsearch]
  cases call with
  | search body => exact hsearchUrl
  | proxySearch index body =>
    simp only [url, proxyUrl, hapi]
  | download filename body =>
    simp only [url, exportUrl, hsearchUrl]
  | close => rfl

theorem searchPath_of_located (h : settings.backend.Located scheme server path) :
    settings.client.searchPath.toList = path := by
  obtain ⟨m, n, hpath⟩ := h.searchPath
  rw [Settings.client, make, hpath, String.toList_ofList, dropTrailing_dropLeading_around,
    dropLeading_eq_self h.first, dropTrailing_eq_self h.last]

theorem apiPath_of_located (h : settings.backend.Located scheme server path) :
    settings.client.apiPath.toList =
      if server = [] then dropTrailing '/' scheme.toList else scheme.toList ++ server := by
  obtain ⟨n, hapi⟩ := h.apiPath
  rw [Settings.client, make, hapi, String.toList_ofList, dropTrailing_append_fill]
  split
  next hserver => rw [hserver, List.append_nil]
  next hserver =>
    refine dropTrailing_eq_self ?_
    rw [List.getLast?_append_of_ne_nil _ hserver]
    exact h.server

/-- What is put after the address of the server is a whole address with it, if it does not begin with a slash,
exactly if it is in segments and the server is there, without a doubled slash. -/
theorem isEndpoint_apiPath_iff (h : settings.backend.Located scheme server path) {tail : String}
    (htail : tail.toList.head? ≠ some '/') :
    IsEndpoint (settings.client.apiPath ++ "/" ++ tail) ↔ Unbroken server ∧ Segmented tail.toList := by
  have hapi := apiPath_of_located h
  have hurl : (settings.client.apiPath ++ "/" ++ tail).toList
      = settings.client.apiPath.toList ++ '/' :: tail.toList := by
    simp
  by_cases hserver : server = []
  · rw [hapi, if_pos hserver] at hurl
    rw [isEndpoint_iff_of_no_server h.web hurl]
    constructor
    · rintro ⟨rest, hrest, -⟩
      rw [hrest] at htail
      exact absurd rfl htail
    · exact fun hboth => absurd hserver hboth.1.here
  · rw [hapi, if_neg hserver, List.append_assoc] at hurl
    rw [isEndpoint_iff h.web hurl, segmented_append_iff, segmented_iff_unbroken h.server]

theorem isEndpoint_search_iff (h : settings.backend.Located scheme server path) (body : Value) :
    IsEndpoint (settings.client.url (.search body)) ↔ Unbroken server ∧ Unbroken path := by
  have hpath := searchPath_of_located h
  rw [url, searchUrl, isEndpoint_apiPath_iff h (by rw [hpath]; exact h.first), hpath,
    segmented_iff_unbroken h.last]

theorem isEndpoint_proxySearch_iff (h : settings.backend.Located scheme server path) {index : String}
    (hindex : '/' ∉ index.toList) (body : Value) :
    IsEndpoint (settings.client.url (.proxySearch index body)) ↔ Unbroken server ∧ index ≠ "" := by
  have hurl : settings.client.url (.proxySearch index body)
      = settings.client.apiPath ++ "/" ++ (proxyPath ++ "/" ++ index) := by
    simp only [url, proxyUrl, String.append_assoc]
  have htail : (proxyPath ++ "/" ++ index).toList = proxyPath.toList ++ '/' :: index.toList := by
    simp
  have hfirst : (proxyPath.toList ++ '/' :: index.toList).head? ≠ some '/' := by
    rw [List.head?_append_of_ne_nil _ (by decide)]
    decide
  have hproxy : Segmented proxyPath.toList := by decide
  rw [hurl, isEndpoint_apiPath_iff h (by rw [htail]; exact hfirst), htail, segmented_append_iff,
    and_iff_right hproxy, segmented_iff_of_not_mem hindex, ne_eq, String.toList_eq_nil_iff]

theorem isEndpoint_download_iff_of_path (h : settings.backend.Located scheme server path) (hne : path ≠ [])
    (filename : String) (body : Value) :
    IsEndpoint (settings.client.url (.download filename body)) ↔ Unbroken server ∧ Unbroken path := by
  have hurl : settings.client.url (.download filename body)
      = settings.client.apiPath ++ "/" ++ (settings.client.searchPath ++ "/csv") := by
    simp only [url, exportUrl, searchUrl, String.append_assoc]
  have htail : (settings.client.searchPath ++ "/csv").toList = path ++ '/' :: "csv".toList := by
    simp [searchPath_of_located h]
  have hfirst : (path ++ '/' :: "csv".toList).head? ≠ some '/' := by
    rw [List.head?_append_of_ne_nil _ hne]
    exact h.first
  have hcsv : Segmented "csv".toList := by decide
  rw [hurl, isEndpoint_apiPath_iff h (by rw [htail]; exact hfirst), htail, segmented_append_iff,
    and_iff_left hcsv, segmented_iff_unbroken h.last]

/-- Without a search path an export has a doubled slash, which is the one after the scheme if there is no server
either. -/
theorem isEndpoint_download_iff_of_no_path (h : settings.backend.Located scheme server []) (filename : String)
    (body : Value) : IsEndpoint (settings.client.url (.download filename body)) ↔ server = [] := by
  have hurl : (settings.client.url (.download filename body)).toList
      = settings.client.apiPath.toList ++ '/' :: '/' :: "csv".toList := by
    simp [url, exportUrl, searchUrl, searchPath_of_located h]
  rw [apiPath_of_located h] at hurl
  by_cases hserver : server = []
  · have hcsv : Segmented "csv".toList := by decide
    rw [if_pos hserver] at hurl
    exact iff_of_true ((isEndpoint_iff_of_no_server h.web hurl).mpr ⟨_, rfl, hcsv⟩) hserver
  · have hempty : ¬Segmented ('/' :: "csv".toList) := by decide
    rw [if_neg hserver, List.append_assoc] at hurl
    rw [isEndpoint_iff h.web hurl, segmented_append_iff]
    exact iff_of_false (fun hboth => hempty hboth.2) hserver

theorem isEndpoint_download_iff (h : settings.backend.Located scheme server path) (filename : String)
    (body : Value) :
    IsEndpoint (settings.client.url (.download filename body)) ↔
      (Unbroken server ∧ Unbroken path) ∨ (server = [] ∧ path = []) := by
  by_cases hpath : path = []
  · obtain rfl := hpath
    have hnone : ¬Unbroken [] := fun hunbroken => hunbroken.here rfl
    rw [isEndpoint_download_iff_of_no_path h, or_iff_right fun hboth => hnone hboth.2, and_iff_left rfl]
  · rw [isEndpoint_download_iff_of_path h hpath, or_iff_left fun hboth => hpath hboth.2]

theorem url_of_post? {client : HttpClient} {call : BackendCall} {post : HttpPost}
    (h : client.post? call = .ok (some post)) : post.url = client.url call := by
  cases call with
  | close => cases h
  | search body | proxySearch index body | download filename body =>
    obtain ⟨mapping, -, h⟩ := bind_eq_ok_iff.mp h
    obtain rfl := Option.some.inj (Except.ok.inj h)
    rfl

end HttpClient

/-- Suggestions come from an index with a name. -/
theorem Service.suggestIndex_ne_empty {service : Service} (h : service.index ≠ "") (context : SearchContext) :
    service.suggestIndex context ≠ "" := by
  rw [suggestIndex]
  split
  · split
    · exact h
    next hindex => simpa using hindex
  · exact h

namespace Settings

variable {environment : Option String} {raw : Mapping}

/--
**The addresses that accepted settings lead to.**

For all settings that are accepted, with the scheme, the server and the search path that are left of them without
the slashes around:

* searches go to a whole address, which is a scheme of the web and segments with single slashes between them,
  exactly if the server and the search path are there and have no doubled slash; searches in an index without
  slashes do if the server and the index are; exports go where searches do, with one more segment, and take the
  place of the server if there is neither a server nor a search path;
* every post goes to the address of its call, and the index that suggestions come from has a name;
* the number of slashes at the end of the address and at the ends of the search path makes no difference.
-/
theorem endpoints_of_accepted (h : ofMapping environment raw = .ok settings) :
    (∃ scheme server path, settings.backend.Located scheme server path) ∧
    (∀ scheme server path, settings.backend.Located scheme server path →
      (∀ body, IsEndpoint (settings.client.url (.search body)) ↔ Unbroken server ∧ Unbroken path) ∧
      (∀ index body, '/' ∉ index.toList →
        (IsEndpoint (settings.client.url (.proxySearch index body)) ↔ Unbroken server ∧ index ≠ "")) ∧
      (∀ filename body, IsEndpoint (settings.client.url (.download filename body)) ↔
        (Unbroken server ∧ Unbroken path) ∨ (server = [] ∧ path = []))) ∧
    (∀ filename body query,
      settings.client.url (.download filename body) = settings.client.url (.search query) ++ "/csv") ∧
    (∀ call post, settings.client.post? call = .ok (some post) → post.url = settings.client.url call) ∧
    (∀ context, settings.service.suggestIndex context ≠ "") ∧
    ∀ others : Settings, settings.backend.SameUpToSlashes others.backend →
      ∀ call, settings.client.url call = others.client.url call := by
  have hbackend : settings.backend.WellFormed := (wellFormed_of_ofMapping h).backend
  have hindex : settings.backend.index ≠ "" := by
    intro hempty
    exact hbackend.index (by rw [hempty]; rfl)
  refine ⟨hbackend.exists_located, fun scheme server path hlocated => ⟨?_, ?_, ?_⟩, fun _ _ _ => rfl,
    fun _ _ => HttpClient.url_of_post?, Service.suggestIndex_ne_empty hindex,
    fun _ hsame => HttpClient.url_of_sameUpToSlashes hsame⟩
  · exact HttpClient.isEndpoint_search_iff hlocated
  · exact fun index body hslash => HttpClient.isEndpoint_proxySearch_iff hlocated hslash body
  · exact HttpClient.isEndpoint_download_iff hlocated

/-- A slash at the end of the address, and one at the front of the search path. -/
theorem endpoints_of_accepted_slashes :
    let backend := Value.object [("api_path", .str "http://localhost:4000/api/"), ("index", .str "archives"),
      ("search_path", .str "/professionDeFoi/search")]
    let facet := Value.object [("field", .str "party"), ("kind", .str "terms")]
    let raw : Mapping := [(.str "backend", backend), (.str "facets", .object [("party", facet)])]
    ∃ settings, ofMapping none raw = .ok settings ∧
      settings.client.url (.search .null) = "http://localhost:4000/api/professionDeFoi/search" ∧
      IsEndpoint (settings.client.url (.search .null)) := by
  intro backend facet raw
  have hrun : (ofMapping none raw).toOption.map (fun settings =>
      (settings.backend.apiPath, settings.backend.searchPath, settings.client.searchUrl)) =
        some ("http://localhost:4000/api/", "/professionDeFoi/search",
          "http://localhost:4000/api/professionDeFoi/search") := by
    decide +kernel
  obtain ⟨settings, h, hparts⟩ := exists_of_toOption_map hrun
  obtain ⟨hapi, hparts⟩ := Prod.mk.inj hparts
  obtain ⟨hsearch, hurl⟩ := Prod.mk.inj hparts
  have hlocated : settings.backend.Located "http://" "localhost:4000/api".toList "professionDeFoi/search".toList :=
    { web := by decide
      apiPath := ⟨1, by rw [hapi]; decide +kernel⟩
      server := by decide +kernel
      searchPath := ⟨1, 0, by rw [hsearch]; decide +kernel⟩
      first := by decide +kernel
      last := by decide +kernel }
  obtain ⟨-, hendpoints, -⟩ := endpoints_of_accepted h
  obtain ⟨hiff, -⟩ := hendpoints _ _ _ hlocated
  exact ⟨settings, h, hurl,
    (hiff .null).mpr ⟨⟨by decide +kernel, by decide +kernel⟩, ⟨by decide +kernel, by decide +kernel⟩⟩⟩

/-- **Settings that are accepted can lead to an address that ends in a slash, or to none of the web.** -/
theorem broken_addresses_accepted :
    let backend (apiPath searchPath : String) := Value.object [("api_path", .str apiPath), ("index", .str "idx"),
      ("search_path", .str searchPath)]
    let facet := Value.object [("field", .str "party"), ("kind", .str "terms")]
    let raw (apiPath searchPath : String) : Mapping :=
      [(.str "backend", backend apiPath searchPath), (.str "facets", .object [("party", facet)])]
    (∃ settings, ofMapping none (raw "https://archive" "/") = .ok settings ∧
      settings.client.url (.search .null) = "https://archive/" ∧ ¬IsEndpoint "https://archive/") ∧
    ∃ settings, ofMapping none (raw "http://" "search") = .ok settings ∧
      settings.client.url (.search .null) = "http:/search" ∧ ¬IsEndpoint "http:/search" := by
  intro backend facet raw
  have hrun : (ofMapping none (raw "https://archive" "/")).toOption.map (fun settings =>
      settings.client.searchUrl) = some "https://archive/" := by
    decide +kernel
  have hother : (ofMapping none (raw "http://" "search")).toOption.map (fun settings =>
      settings.client.searchUrl) = some "http:/search" := by
    decide +kernel
  obtain ⟨settings, h, hurl⟩ := exists_of_toOption_map hrun
  obtain ⟨others, hothers, hsecond⟩ := exists_of_toOption_map hother
  have hslash : "https://archive/".toList = "https://".toList ++ "archive/".toList := by decide +kernel
  have hscheme : "http:/search".toList = dropTrailing '/' "http://".toList ++ '/' :: "search".toList := by
    decide +kernel
  refine ⟨⟨settings, h, hurl, ?_⟩, others, hothers, hsecond, ?_⟩
  · rw [isEndpoint_iff (by decide) hslash]
    decide +kernel
  · rw [isEndpoint_iff_of_no_server (by decide) hscheme]
    rintro ⟨rest, hrest, -⟩
    cases hrest

end Settings

end Faceted
