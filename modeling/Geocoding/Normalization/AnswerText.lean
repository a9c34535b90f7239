import Geocoding.Json.Shape
import Geocoding.Normalization.Answer

/-!
# Answers of the normalization service as JSON

The service nests each section of its answer in records of its own, writes
coordinates as numbers or as strings, and may leave out most texts.  A text that
is left out counts as empty; a postal code or house number then stays absent.
-/

namespace Geocoding.Answer

open Json (Shape Fields Leaf)

def textShape : Shape := .leaf .string
def optionalText : Shape := .optional textShape
def coordinateShape : Shape := .leaf .coordinate

def georeferenceShape : Shape :=
  .record "DatiGeoreferenziazioneInd"
    (.cons "longitudine" false coordinateShape (.cons "latitudine" false coordinateShape .nil))

def streetDataShape : Shape :=
  .record "DatiNormalizzazioneInd"
    (.cons "localita" false optionalText
      (.cons "provincia" false optionalText
        (.cons "cap" false optionalText
          (.cons "civico" false optionalText
            (.cons "dug" false optionalText
              (.cons "toponimo" false optionalText .nil))))))

def recognizedShape : Shape :=
  .record "IndirizzoRiconosciuto"
    (.cons "datiGeoreferenziazioneInd" false georeferenceShape
      (.cons "datiNormalizzazioneInd" false streetDataShape .nil))

def itemShape : Shape :=
  .record "AmbiguitaIndItem"
    (.cons "x" false coordinateShape
      (.cons "y" false coordinateShape
        (.cons "indirizzo" false textShape
          (.cons "civico" false optionalText .nil))))

def itemsShape : Shape :=
  .record "AmbiguitaInd"
    (.cons "ambiguitaIndItem" true (.list itemShape)
      (.cons "ambiguitaIndItemCount" false (.optional (.leaf .count)) .nil))

def ambiguousShape : Shape :=
  .record "IndirizzoAmbiguo" (.cons "ambiguitaInd" false itemsShape .nil)

def localityDataShape : Shape :=
  .record "DatiNormalizzazioneLoc"
    (.cons "xSezioneIstat" false coordinateShape
      (.cons "ySezioneIstat" false coordinateShape
        (.cons "frazione" false optionalText
          (.cons "localita" false optionalText
            (.cons "provincia" false optionalText
              (.cons "cap" false optionalText .nil))))))

def localityShape : Shape :=
  .record "LocalitaNormalizzata" (.cons "datiNormalizzazioneLoc" false localityDataShape .nil)

def answerShape : Shape :=
  .record "RispostaNormalizzata"
    (.cons "tipoRispostaNorm" false textShape
      (.cons "indirizzoRiconosciuto" false (.optional recognizedShape)
        (.cons "indirizzoAmbiguo" false (.optional ambiguousShape)
          (.cons "localitaNormalizzata" false (.optional localityShape) .nil))))

def orEmpty (text : Option String) : String := text.getD ""

def recognizedOf : recognizedShape.Carrier → RecognizedAddress
  | ((longitude, latitude, ()),
      (localita, provincia, cap, civico, dug, toponimo, ()), ()) =>
    { position := { longitude, latitude }
      locality := orEmpty localita
      province := orEmpty provincia
      postalCode := cap
      houseNumber := civico
      streetType := orEmpty dug
      streetName := orEmpty toponimo }

def itemOf : itemShape.Carrier → AmbiguousItem
  | (x, y, indirizzo, civico, ()) =>
    { position := { longitude := x, latitude := y }, address := indirizzo, houseNumber := civico }

/-- An ambiguous section.  Without a count of its own it counts its items. -/
def ambiguousOf : ambiguousShape.Carrier → AmbiguousAddress
  | ((items, count, ()), ()) =>
    { reportedCount := count.getD items.length, items := items.map itemOf }

def localityOf : localityShape.Carrier → NormalizedLocality
  | ((x, y, frazione, localita, provincia, cap, ()), ()) =>
    { position := { longitude := x, latitude := y }
      hamlet := orEmpty frazione
      locality := orEmpty localita
      province := orEmpty provincia
      postalCode := cap }

def answerOf : answerShape.Carrier → RawAnswer
  | (code, recognized, ambiguous, locality, ()) =>
    { responseCode := code
      recognizedAddress := recognized.map recognizedOf
      ambiguousAddress := ambiguous.map ambiguousOf
      normalizedLocality := locality.map localityOf }

def read (text : List Text.Symbol) : Json.Reading RawAnswer := do
  return answerOf (← answerShape.readText text)

end Geocoding.Answer
