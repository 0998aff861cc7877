import BigMovies.Feed.Pages
import BigMovies.Feed.Loading
import BigMovies.Controllers.History
import BigMovies.Controllers.Requests
import BigMovies.Controllers.Serving
import BigMovies.Widgets.Tiles
import BigMovies.Pages.Repeats
import BigMovies.Pages.Progress
import BigMovies.Pages.Selection
import BigMovies.Pages.Background
import BigMovies.Pages.Drawing
import BigMovies.Pages.EmbedPage
import BigMovies.App.Origins
import BigMovies.App.Settling
