import Colloquy.Proofs.Http.Segment
import Colloquy.Proofs.Tool.Containment

/-! What is asked of the price services. CoinGecko is asked by a form, which says the symbol as it is, whatever stands
in it. CoinCap is asked for a path with the symbol at its end, and that is an asset of this name only if the symbol is
a segment as it stands (`symbol_asked`). -/

namespace Colloquy.PriceService

open Http

variable {toAscii : ToAscii} {coinGecko coinCap id symbol : String} {params : Json}

/-- The address is the one of prices at CoinGecko, with a form that asks about the asset and nothing else. -/
structure AsksAbout (toAscii : ToAscii) (coinGecko id : String) (gecko : Url) : Prop where
  place : ∃ prices, Url.read toAscii (coinGecko ++ "/simple/price") = some prices ∧ gecko = { prices with query := gecko.query }
  fragment : gecko.fragment = none
  pairs : gecko.query.bind (fun query => formPairs? query.toList) = some [("ids", id), ("vs_currencies", "usd")]

theorem asksAbout_of_asksPrice (hbase : IsBase toAscii coinGecko) {gecko cap : Url}
    (h : AsksPrice toAscii coinGecko coinCap id gecko cap) : AsksAbout toAscii coinGecko id gecko := by
  obtain ⟨prices, hprices, rfl⟩ := h.gecko
  refine ⟨⟨prices, hprices, rfl⟩, ?_, ?_⟩
  · -- The address itself is plain, so that nothing of it is read as a fragment.
    obtain ⟨folder, -, hquery, hfragment, hbelow⟩ := hbase.read_below "simple" (by decide +kernel) (by decide +kernel)
    have hplain : Segmental "price".toList := segmental_of_plain (by decide +kernel) (by decide +kernel)
    obtain ⟨segment, hnames, -⟩ := hplain.names_below hquery hfragment
    have hsame : coinGecko ++ "/simple/price" = coinGecko ++ "/" ++ ("simple" ++ "/" ++ "price") := by
      simp [String.append_assoc]
    rw [hsame, hbelow, hnames] at hprices
    cases hprices
    exact hfragment
  · rw [Url.withForm, Option.bind_some, String.toList_ofList, formPairs?_formText]

/-- What is put behind the folder of assets at CoinCap. -/
theorem exists_assets (hbase : IsBase toAscii coinCap) :
    ∃ assets, Url.read toAscii (coinCap ++ "/assets") = some assets ∧ assets.query = none ∧ assets.fragment = none ∧
      ∀ name cap, Url.read toAscii (coinCap ++ "/assets/" ++ name) = some cap →
        (assets.Names cap name ↔ Segmental name.toList) := by
  obtain ⟨assets, hassets, hquery, hfragment, hbelow⟩ :=
    hbase.read_below "assets" (by decide +kernel) (by decide +kernel)
  rw [String.append_assoc] at hassets
  refine ⟨assets, hassets, hquery, hfragment, fun name cap hcap => ?_⟩
  have hsame : coinCap ++ "/assets/" ++ name = coinCap ++ "/" ++ ("assets" ++ "/" ++ name) := by
    simp only [String.append_assoc]
    rfl
  rw [hsame, hbelow] at hcap
  cases hcap
  exact names_below_iff hquery hfragment

/-- CoinGecko is asked by a form for the symbol and nothing else, whatever text that is. CoinCap, where it is asked, is
asked for the asset of this name exactly if the name is a segment as it stands: it has no slash, mark, tab or line end
in it, no blank or control at its end and no percent sign in front of two hexadecimal digits, and is not made of one or
two dots. -/
theorem symbol_asked (web : Web) (hgecko : IsBase web.toAscii coinGecko) (hcap : IsBase web.toAscii coinCap)
    (made : List Request) (hsymbol : NamesSymbol params symbol) : ∃ gecko cap assets,
      AsksServices web made (Text.lower symbol) gecko cap ((price ⟨web.fetch, coinGecko, coinCap⟩ params).run made).2 ∧
      AsksAbout web.toAscii coinGecko (Text.lower symbol) gecko ∧
      Url.read web.toAscii (coinCap ++ "/assets/" ++ capId (Text.lower symbol)) = some cap ∧
      Url.read web.toAscii (coinCap ++ "/assets") = some assets ∧ assets.query = none ∧ assets.fragment = none ∧
      (assets.Names cap (capId (Text.lower symbol)) ↔ Segmental (capId (Text.lower symbol)).toList) := by
  obtain ⟨gecko, cap, hasks, hservices⟩ := price_requests web hgecko hcap made hsymbol
  obtain ⟨assets, hassets, hquery, hfragment, hnames⟩ := exists_assets hcap
  exact ⟨gecko, cap, assets, hservices, asksAbout_of_asksPrice hgecko hasks, hasks.cap, hassets, hquery, hfragment,
    hnames _ _ hasks.cap⟩

/-- No request brings a reply. -/
def silentWeb : Web where
  toAscii := asciiOnly
  answer _ _ := .error .dropped

theorem untold_silentWeb (made : List Request) (r : Request) (id : String) : ¬TellsPrice (silentWeb.answer made r) id := by
  rintro ⟨reply, d, n, hreply, -⟩
  cases hreply

theorem symbol_asked_sample :
    let prices : PriceService (StateM (List Request)) := { fetch := silentWeb.fetch }
    let params : Json := .obj [("symbol", " Bitcoin ")]
    ∃ gecko cap assets, ((prices.price params).run []).2 = [request gecko, request cap] ∧
      AsksAbout silentWeb.toAscii prices.coinGecko "bitcoin" gecko ∧ Url.read silentWeb.toAscii (prices.coinCap ++ "/assets") = some assets ∧
      assets.Names cap "bitcoin" := by
  intro prices params
  obtain ⟨hgecko, hcap⟩ := isBase_usual silentWeb.fetch
  have hsymbol : NamesSymbol params "Bitcoin" :=
    ⟨" Bitcoin ", rfl, by rw [Text.isAllBlank, String.all_bool_eq]; rfl, by decide +kernel⟩
  have hid : Text.lower "Bitcoin" = "bitcoin" := by decide +kernel
  have hname : capId "bitcoin" = "bitcoin" := by decide +kernel
  obtain ⟨gecko, cap, assets, hservices, habout, -, hassets, -, -, hnames⟩ :=
    symbol_asked silentWeb hgecko hcap [] hsymbol
  rw [hid] at hservices habout hnames
  rw [hname] at hnames
  have hplain : Segmental "bitcoin".toList := segmental_of_plain (by decide +kernel) (by decide +kernel)
  exact ⟨gecko, cap, assets, hservices.untold (untold_silentWeb _ _ _), habout, hassets, hnames.mpr hplain⟩

/-- A symbol with a slash in it leads out of the folder of assets. -/
theorem slash_leads_on :
    let prices : PriceService (StateM (List Request)) := { fetch := silentWeb.fetch }
    let params : Json := .obj [("symbol", "a/b")]
    ∃ gecko cap assets, ((prices.price params).run []).2 = [request gecko, request cap] ∧
      Url.read silentWeb.toAscii (prices.coinCap ++ "/assets") = some assets ∧ ¬assets.Names cap "a/b" := by
  intro prices params
  obtain ⟨hgecko, hcap⟩ := isBase_usual silentWeb.fetch
  have hsymbol : NamesSymbol params "a/b" :=
    ⟨"a/b", rfl, by rw [Text.isAllBlank, String.all_bool_eq]; rfl, by decide +kernel⟩
  have hname : capId (Text.lower "a/b") = "a/b" := by decide +kernel
  obtain ⟨gecko, cap, hasks, hservices⟩ := price_requests silentWeb hgecko hcap [] hsymbol
  obtain ⟨assets, hassets, -, -, hnames⟩ := exists_assets hcap
  have hiff := hnames _ _ hasks.cap
  rw [hname] at hiff
  refine ⟨gecko, cap, assets, hservices.untold (untold_silentWeb _ _ _), hassets, fun hnamed => ?_⟩
  have hslash := ((hiff.mp hnamed).plain '/' (by decide +kernel)).1
  cases hslash

end Colloquy.PriceService
