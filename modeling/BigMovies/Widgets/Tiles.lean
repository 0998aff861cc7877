import BigMovies.Pages.MainPage

/-! The tiles of `movie_tile.dart` and `tv_show_tile.dart`: the texts they show
and the poster they load. Building a tile fails when a `!` meets null. -/
namespace BigMovies
open Dart

/-- The texts of a tile from top to bottom, and the URL of its image. -/
structure Tile where
  posterURL : String
  name : String
  rating : String
  details : String
  description : String
deriving DecidableEq, Repr

/-- The library functions that tiles format with. -/
structure Formats where
  toStringAsFixed1 : Number → String
  toUpperCase : String → String

def MovieTile.build (formats : Formats) (movie : Movie) : Except Thrown Tile := do
  return {
    posterURL := movie.posterURL
    name := ← nonNull movie.name
    rating := formats.toStringAsFixed1 (← nonNull movie.rating)
    details := formats.toUpperCase (← nonNull movie.language) ++ " | R: " ++
      interpolateBool movie.isAdult ++ " | " ++ interpolate movie.releaseDate
    description := ← nonNull movie.description }

def TVShowTile.build (formats : Formats) (tvShow : TVShow) : Except Thrown Tile := do
  return {
    posterURL := tvShow.posterURL
    name := ← nonNull tvShow.name
    rating := match tvShow.voteAverage with
      | some voteAverage => formats.toStringAsFixed1 (.double voteAverage)
      | none => "N/A"
    details := interpolate (tvShow.language.map formats.toUpperCase) ++ " | " ++
      interpolate tvShow.firstAirDate
    description := tvShow.overview.getD "No description available" }

/-- The tile that the list builds for an item. -/
def Item.tile (formats : Formats) : Item → Except Thrown Tile
  | .movie shown => MovieTile.build formats shown
  | .tvShow shown => TVShowTile.build formats shown

end BigMovies
