import Storefront.Tinkoff.Notification
import Storefront.Order.Concurrency
import Storefront.Order.Notification
import Storefront.Order.CartCorrection
import Storefront.Order.CheckoutSession
import Storefront.Order.Settlement
import Storefront.Order.UserOrder
import Storefront.User.GuestCart
import Storefront.Transport.ScopedSession
import Storefront.Transport.Access
import Storefront.Order.Independence
import Storefront.Order.Sections
import Storefront.User.CartQuantity
import Storefront.Library.PlainRead
import Storefront.User.CartRace
import Storefront.Order.Progress
import Storefront.Catalog.Publications
import Storefront.Catalog.FilterGroups
import Storefront.User.CartItems
import Storefront.User.Favorites
import Storefront.FileManager.Images
import Storefront.Transport.ErrorHandlers
import Storefront.Catalog.PublicationViews
import Storefront.Order.OrderErrors
import Storefront.Database.Products
import Storefront.Catalog.Products
import Storefront.Library.Updates
import Storefront.Order.Deliveries
import Storefront.Catalog.CatalogCache
import Storefront.Catalog.ProductImages
import Storefront.Catalog.CreatedProducts
import Storefront.Catalog.ProductForm
import Storefront.Catalog.ProductList
import Storefront.User.BrowserCart
import Storefront.Order.OrderPage
import Storefront.Order.Quote
import Storefront.Order.PaymentProtocol
import Storefront.Catalog.Categories
import Storefront.Catalog.CatalogWorld
import Storefront.Catalog.PublishedProducts
