/-!
# Tags and keys

Directory entries are known by tags, and the entries of a geographic key table by keys. Both are
16-bit numbers with registered names.
-/

namespace Georef.Tiff

namespace Tag

def imageWidth : UInt16 := 256
def imageLength : UInt16 := 257
def bitsPerSample : UInt16 := 258
def compression : UInt16 := 259
def samplesPerPixel : UInt16 := 277
def tileWidth : UInt16 := 322
def tileLength : UInt16 := 323
def sampleFormat : UInt16 := 339
def modelPixelScale : UInt16 := 33550
def modelTiepoint : UInt16 := 33922
def modelTransformation : UInt16 := 34264
def geoKeyDirectory : UInt16 := 34735
def geoDoubleParams : UInt16 := 34736
def geoAsciiParams : UInt16 := 34737

/-- The registered tags with their names. -/
def registered : List (UInt16 × String) :=
  [(imageWidth, "ImageWidth"), (imageLength, "ImageLength"), (bitsPerSample, "BitsPerSample"),
    (compression, "Compression"), (262, "PhotometricInterpretation"), (270, "ImageDescription"),
    (273, "StripOffsets"), (samplesPerPixel, "SamplesPerPixel"), (278, "RowsPerStrip"),
    (279, "StripByteCounts"), (282, "XResolution"), (283, "YResolution"),
    (284, "PlanarConfiguration"), (296, "ResolutionUnit"), (305, "Software"), (306, "DateTime"),
    (tileWidth, "TileWidth"), (tileLength, "TileLength"), (324, "TileOffsets"),
    (325, "TileByteCounts"), (sampleFormat, "SampleFormat"),
    (modelPixelScale, "ModelPixelScale"), (modelTiepoint, "ModelTiepoint"),
    (modelTransformation, "ModelTransformation"), (geoKeyDirectory, "GeoKeyDirectory"),
    (geoDoubleParams, "GeoDoubleParams"), (geoAsciiParams, "GeoAsciiParams"),
    (42112, "GDAL_METADATA"), (42113, "GDAL_NODATA")]

/-- The registered name of a tag. -/
def name (tag : UInt16) : String :=
  (registered.lookup tag).getD "Unknown"

/-- The tags that place an image on the ground. -/
def georeferencing : List UInt16 :=
  [modelPixelScale, modelTiepoint, modelTransformation, geoKeyDirectory, geoDoubleParams,
    geoAsciiParams]

end Tag

namespace GeoKeyId

def modelType : UInt16 := 1024
def citation : UInt16 := 1026
def geographicType : UInt16 := 2048
def geographicCitation : UInt16 := 2049
def projectedType : UInt16 := 3072
def projectedCitation : UInt16 := 3073
def verticalType : UInt16 := 4096

/-- The registered keys with their names. -/
def registered : List (UInt16 × String) :=
  [(modelType, "GTModelTypeGeoKey"), (1025, "GTRasterTypeGeoKey"),
    (citation, "GTCitationGeoKey"), (geographicType, "GeographicTypeGeoKey"),
    (geographicCitation, "GeogCitationGeoKey"), (2050, "GeogGeodeticDatumGeoKey"),
    (2054, "GeogAngularUnitsGeoKey"), (2057, "GeogSemiMajorAxisGeoKey"),
    (2059, "GeogInvFlatteningGeoKey"), (projectedType, "ProjectedCSTypeGeoKey"),
    (projectedCitation, "PCSCitationGeoKey"), (3076, "ProjLinearUnitsGeoKey"),
    (verticalType, "VerticalCSTypeGeoKey"), (4097, "VerticalCitationGeoKey"),
    (4098, "VerticalDatumGeoKey"), (4099, "VerticalUnitsGeoKey")]

/-- The registered name of a key. -/
def name (id : UInt16) : String :=
  (registered.lookup id).getD "Unknown"

/-- The code that stands for a system that is described by the file itself. -/
def userDefined : UInt16 := 32767

end GeoKeyId

end Georef.Tiff
