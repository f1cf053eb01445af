import QueryFoundry.Text.Octets

/-!
# Headers of ordered containers

The headers of C++ that declare containers that are ordered by their keys.
-/

namespace QueryFoundry.Native.Headers

open Text (Octets)

/-- Balanced trees. -/
def trees : Octets := "
 #include <__memory>
 #include <__algorithms>
 #include <__throwing>
 #include <functional>
 namespace std <%
 struct __node_base <%
   __node_base *up, *left, *right; unsigned weight;
   static __node_base *lowest(__node_base *n) <% while (n->left) n = n->left; return n; %>
   static __node_base *highest(__node_base *n) <% while (n->right) n = n->right; return n; %>
   static __node_base *next(__node_base *n) <%
     if (n->right) return lowest(n->right);
     __node_base *u = n->up;
     while (n == u->right) <% n = u; u = u->up; %>
     return n->right != u ? u : n; %>
   static __node_base *prior(__node_base *n) <%
     if (n->weight == 0 && n->up && n->up->up == n) return n->right;
     if (n->left) return highest(n->left);
     __node_base *u = n->up;
     while (n == u->left) <% n = u; u = u->up; %>
     return u; %>
 %>;
 template <class V> struct __node : __node_base <%
   union <% V value; %>;
   __node() <%%>
   ~__node() <%%>
 %>;
 template <class V> class __tree_const_iterator;
 template <class V> class __tree_iterator <%
 public:
   __node_base *__n;
   typedef bidirectional_iterator_tag iterator_category; typedef V value_type;
   typedef ptrdiff_t difference_type; typedef V *pointer; typedef V &reference;
   __tree_iterator() : __n(nullptr) <%%>
   explicit __tree_iterator(__node_base *n) : __n(n) <%%>
   V &operator*() const <% return static_cast<__node<V> *>(__n)->value; %>
   V *operator->() const <% return addressof(static_cast<__node<V> *>(__n)->value); %>
   __tree_iterator &operator++() <% __n = __node_base::next(__n); return *this; %>
   __tree_iterator operator++(int) <% __tree_iterator old = *this; ++*this; return old; %>
   __tree_iterator &operator--() <% __n = __node_base::prior(__n); return *this; %>
   __tree_iterator operator--(int) <% __tree_iterator old = *this; --*this; return old; %>
 %>;
 template <class V> class __tree_const_iterator <%
 public:
   __node_base *__n;
   typedef bidirectional_iterator_tag iterator_category; typedef V value_type;
   typedef ptrdiff_t difference_type; typedef const V *pointer; typedef const V &reference;
   __tree_const_iterator() : __n(nullptr) <%%>
   explicit __tree_const_iterator(__node_base *n) : __n(n) <%%>
   __tree_const_iterator(const __tree_iterator<V> &other) : __n(other.__n) <%%>
   const V &operator*() const <% return static_cast<__node<V> *>(__n)->value; %>
   const V *operator->() const <% return addressof(static_cast<__node<V> *>(__n)->value); %>
   __tree_const_iterator &operator++() <% __n = __node_base::next(__n); return *this; %>
   __tree_const_iterator operator++(int) <% __tree_const_iterator old = *this; ++*this;
       return old; %>
   __tree_const_iterator &operator--() <% __n = __node_base::prior(__n); return *this; %>
   __tree_const_iterator operator--(int) <% __tree_const_iterator old = *this; --*this;
       return old; %>
 %>;
 template <class V> bool operator==(const __tree_iterator<V> &a, const __tree_iterator<V> &b) <%
   return a.__n == b.__n; %>
 template <class V> bool operator!=(const __tree_iterator<V> &a, const __tree_iterator<V> &b) <%
   return a.__n != b.__n; %>
 template <class V>
 bool operator==(const __tree_const_iterator<V> &a, const __tree_const_iterator<V> &b) <%
   return a.__n == b.__n; %>
 template <class V>
 bool operator!=(const __tree_const_iterator<V> &a, const __tree_const_iterator<V> &b) <%
   return a.__n != b.__n; %>
 template <class V>
 bool operator==(const __tree_iterator<V> &a, const __tree_const_iterator<V> &b) <%
   return a.__n == b.__n; %>
 template <class V>
 bool operator!=(const __tree_iterator<V> &a, const __tree_const_iterator<V> &b) <%
   return a.__n != b.__n; %>
 template <class V>
 bool operator==(const __tree_const_iterator<V> &a, const __tree_iterator<V> &b) <%
   return a.__n == b.__n; %>
 template <class V>
 bool operator!=(const __tree_const_iterator<V> &a, const __tree_iterator<V> &b) <%
   return a.__n != b.__n; %>
 struct __own_key <% template <class V> static const V &of(const V &value) <% return value; %> %>;
 struct __first_key <%
   template <class V> static auto of(const V &value) -> decltype((value.first)) <%
     return value.first; %> %>;
 template <class K, class V, class O, class L> class __tree : protected L <%
 public:
   typedef K key_type; typedef V value_type; typedef L key_compare; typedef size_t size_type;
   typedef ptrdiff_t difference_type; typedef V &reference; typedef const V &const_reference;
   typedef V *pointer; typedef const V *const_pointer; typedef allocator<V> allocator_type;
   typedef __tree_const_iterator<V> const_iterator;
   typedef typename conditional<is_same<K, V>::value, const_iterator, __tree_iterator<V>>::type
       iterator;
   typedef std::reverse_iterator<iterator> reverse_iterator;
   typedef std::reverse_iterator<const_iterator> const_reverse_iterator;
 protected:
   mutable __node_base __head; size_t __count; unsigned __seed;
   void __start() <%
     __head.up = nullptr; __head.left = __head.right = &__head; __head.weight = 0; __count = 0; %>
   const L &__less() const <% return *this; %>
   static const K &__key(__node_base *n) <% return O::of(static_cast<__node<V> *>(n)->value); %>
   void __drop(__node_base *n) <%
     static_cast<__node<V> *>(n)->value.~V(); delete static_cast<__node<V> *>(n); %>
   void __clear(__node_base *n) <%
     while (n) <% __clear(n->right); __node_base *l = n->left; __drop(n); n = l; %> %>
   template <class... A> __node<V> *__make(A &&...given) <%
     __node<V> *n = new __node<V>();
     try <% ::new ((void *)addressof(n->value)) V(std::forward<A>(given)...); %>
     catch (...) <% delete n; throw; %>
     return n; %>
   void __turn(__node_base *n) <%
     __node_base *u = n->up, *o = u->up;
     if (u->left == n) <% u->left = n->right; if (n->right) n->right->up = u; n->right = u; %>
     else <% u->right = n->left; if (n->left) n->left->up = u; n->left = u; %>
     n->up = o; u->up = n;
     if (o == &__head) __head.up = n;
     else if (o->left == u) o->left = n; else o->right = n; %>
   void __link(__node_base *n, __node_base *parent, bool isLeft) <%
     n->left = n->right = nullptr; n->up = parent;
     __seed = __seed * 1103515245u + 12345u; n->weight = (__seed >> 8) | 1;
     if (parent == &__head) <% __head.up = n; __head.left = __head.right = n; %>
     else if (isLeft) <% parent->left = n; if (__head.left == parent) __head.left = n; %>
     else <% parent->right = n; if (__head.right == parent) __head.right = n; %>
     ++__count;
     while (n->up != &__head && n->weight > n->up->weight) __turn(n); %>
   void __unlink(__node_base *n) <%
     if (__head.left == n) __head.left = __count > 1 ? __node_base::next(n) : &__head;
     if (__head.right == n) __head.right = __count > 1 ? __node_base::prior(n) : &__head;
     while (n->left || n->right) <%
       if (!n->right || (n->left && n->left->weight > n->right->weight)) __turn(n->left);
       else __turn(n->right); %>
     if (n->up == &__head) __head.up = nullptr;
     else if (n->up->left == n) n->up->left = nullptr; else n->up->right = nullptr;
     --__count; %>
   template <class Q> __node_base *__lower(const Q &key) const <%
     __node_base *n = __head.up, *found = &__head;
     while (n) if (!__less()(__key(n), key)) <% found = n; n = n->left; %> else n = n->right;
     return found; %>
   template <class Q> __node_base *__upper(const Q &key) const <%
     __node_base *n = __head.up, *found = &__head;
     while (n) if (__less()(key, __key(n))) <% found = n; n = n->left; %> else n = n->right;
     return found; %>
   template <class Q> __node_base *__locate(const Q &key) const <%
     __node_base *n = __lower(key);
     return n == &__head || __less()(key, __key(n)) ? &__head : n; %>
   struct __spot <% __node_base *parent; bool isLeft; __node_base *same; %>;
   __spot __single_spot(const K &key) const <%
     __node_base *n = __head.up, *parent = &__head; bool isLeft = true;
     while (n) <% parent = n; isLeft = __less()(key, __key(n)); n = isLeft ? n->left :
         n->right; %>
     __node_base *before = parent;
     if (isLeft) <%
       if (parent == __head.left || parent == &__head) return __spot<%parent, isLeft, nullptr%>;
       before = __node_base::prior(parent); %>
     if (__less()(__key(before), key)) return __spot<%parent, isLeft, nullptr%>;
     return __spot<%parent, isLeft, before%>; %>
   __spot __many_spot(const K &key) const <%
     __node_base *n = __head.up, *parent = &__head; bool isLeft = true;
     while (n) <% parent = n; isLeft = __less()(key, __key(n)); n = isLeft ? n->left :
         n->right; %>
     return __spot<%parent, isLeft, nullptr%>; %>
   __node_base *__copy(__node_base *n, __node_base *up) <%
     if (!n) return nullptr;
     __node<V> *made = __make(static_cast<__node<V> *>(n)->value);
     made->up = up; made->weight = n->weight; made->left = made->right = nullptr;
     made->left = __copy(n->left, made); made->right = __copy(n->right, made);
     return made; %>
   void __copy_from(const __tree &other) <%
     __head.up = __copy(other.__head.up, &__head); __count = other.__count;
     if (__head.up) <% __head.left = __node_base::lowest(__head.up);
       __head.right = __node_base::highest(__head.up); %> %>
   void __take_from(__tree &other) <%
     if (other.__head.up) <%
       __head.up = other.__head.up; __head.left = other.__head.left;
       __head.right = other.__head.right; __head.up->up = &__head; __count = other.__count;
       other.__start(); %> %>
 public:
   __tree() : L(), __seed(1) <% __start(); %>
   explicit __tree(const L &less) : L(less), __seed(1) <% __start(); %>
   __tree(const __tree &other) : L(other), __seed(other.__seed) <%
     __start(); __copy_from(other); %>
   __tree(__tree &&other) noexcept : L(std::move(static_cast<L &>(other))),
       __seed(other.__seed) <%
     __start(); __take_from(other); %>
   ~__tree() <% __clear(__head.up); %>
   __tree &operator=(const __tree &other) <%
     if (this != &other) <%
       clear(); static_cast<L &>(*this) = static_cast<const L &>(other); __copy_from(other); %>
     return *this; %>
   __tree &operator=(__tree &&other) noexcept <%
     if (this != &other) <% clear(); __take_from(other); %>
     return *this; %>
   iterator begin() noexcept <% return iterator(__head.left); %>
   const_iterator begin() const noexcept <% return const_iterator(__head.left); %>
   iterator end() noexcept <% return iterator(&__head); %>
   const_iterator end() const noexcept <% return const_iterator(&__head); %>
   reverse_iterator rbegin() <% return reverse_iterator(end()); %>
   const_reverse_iterator rbegin() const <% return const_reverse_iterator(end()); %>
   reverse_iterator rend() <% return reverse_iterator(begin()); %>
   const_reverse_iterator rend() const <% return const_reverse_iterator(begin()); %>
   const_iterator cbegin() const noexcept <% return begin(); %>
   const_iterator cend() const noexcept <% return end(); %>
   const_reverse_iterator crbegin() const <% return rbegin(); %>
   const_reverse_iterator crend() const <% return rend(); %>
   size_t size() const noexcept <% return __count; %>
   size_t max_size() const noexcept <% return size_t(0x7fffffffffffffff) / sizeof(__node<V>); %>
   bool empty() const noexcept <% return __count == 0; %>
   void clear() noexcept <% __clear(__head.up); __start(); %>
   L key_comp() const <% return *this; %>
   allocator_type get_allocator() const <% return allocator_type(); %>
   iterator find(const K &key) <% return iterator(__locate(key)); %>
   const_iterator find(const K &key) const <% return const_iterator(__locate(key)); %>
   iterator lower_bound(const K &key) <% return iterator(__lower(key)); %>
   const_iterator lower_bound(const K &key) const <% return const_iterator(__lower(key)); %>
   iterator upper_bound(const K &key) <% return iterator(__upper(key)); %>
   const_iterator upper_bound(const K &key) const <% return const_iterator(__upper(key)); %>
   pair<iterator, iterator> equal_range(const K &key) <%
     return pair<iterator, iterator>(lower_bound(key), upper_bound(key)); %>
   pair<const_iterator, const_iterator> equal_range(const K &key) const <%
     return pair<const_iterator, const_iterator>(lower_bound(key), upper_bound(key)); %>
   size_t count(const K &key) const <%
     size_t n = 0;
     for (__node_base *i = __lower(key), *e = __upper(key); i != e; i = __node_base::next(i)) ++n;
     return n; %>
 #if __cplusplus >= 201402L
   template <class Q, class M = L, class = typename M::is_transparent>
   iterator find(const Q &key) <% return iterator(__locate(key)); %>
   template <class Q, class M = L, class = typename M::is_transparent>
   size_t count(const Q &key) const <% return __locate(key) != &__head; %>
 #endif
 #if __cplusplus >= 202002L
   bool contains(const K &key) const <% return __locate(key) != &__head; %>
 #endif
   iterator erase(const_iterator place) <%
     __node_base *next = __node_base::next(place.__n);
     __unlink(place.__n); __drop(place.__n); return iterator(next); %>
   iterator erase(const_iterator first, const_iterator last) <%
     while (first != last) first = erase(first);
     return iterator(last.__n); %>
   size_t erase(const K &key) <%
     size_t n = 0;
     __node_base *i = __lower(key), *e = __upper(key);
     while (i != e) <% __node_base *next = __node_base::next(i);
       __unlink(i); __drop(i); i = next; ++n; %>
     return n; %>
   void swap(__tree &other) noexcept <%
     __tree kept(std::move(other)); other.__take_from(*this); __take_from(kept); %>
 %>;
 template <class K, class V, class O, class L> class __single_tree : public __tree<K, V, O, L> <%
   typedef __tree<K, V, O, L> __base;
 public:
   typedef typename __base::iterator iterator;
   typedef typename __base::const_iterator const_iterator;
   using __base::__base;
   __single_tree() <%%>
   explicit __single_tree(const L &less) : __base(less) <%%>
   template <class... A> pair<iterator, bool> emplace(A &&...given) <%
     __node<V> *n = this->__make(std::forward<A>(given)...);
     typename __base::__spot spot = this->__single_spot(this->__key(n));
     if (spot.same) <% this->__drop(n); return pair<iterator, bool>(iterator(spot.same),
         false); %>
     this->__link(n, spot.parent, spot.isLeft); return pair<iterator, bool>(iterator(n), true); %>
   template <class... A> iterator emplace_hint(const_iterator, A &&...given) <%
     return emplace(std::forward<A>(given)...).first; %>
   template <class U> pair<iterator, bool> __insert(U &&value) <%
     typename __base::__spot spot = this->__single_spot(O::of(value));
     if (spot.same) return pair<iterator, bool>(iterator(spot.same), false);
     __node<V> *n = this->__make(std::forward<U>(value));
     this->__link(n, spot.parent, spot.isLeft); return pair<iterator, bool>(iterator(n), true); %>
   pair<iterator, bool> insert(const V &value) <% return __insert(value); %>
   pair<iterator, bool> insert(V &&value) <% return __insert(std::move(value)); %>
   template <class U, class = typename enable_if<is_constructible<V, U &&>::value &&
       !is_same<V, typename decay<U>::type>::value>::type>
   pair<iterator, bool> insert(U &&value) <% return emplace(std::forward<U>(value)); %>
   iterator insert(const_iterator, const V &value) <% return __insert(value).first; %>
   iterator insert(const_iterator, V &&value) <% return __insert(std::move(value)).first; %>
   template <class I, class = typename enable_if<__is_iterator<I>::value>::type>
   void insert(I first, I last) <% for (; first != last; ++first) __insert(V(*first)); %>
   void insert(initializer_list<V> list) <% insert(list.begin(), list.end()); %>
 %>;
 template <class K, class V, class O, class L> class __many_tree : public __tree<K, V, O, L> <%
   typedef __tree<K, V, O, L> __base;
 public:
   typedef typename __base::iterator iterator;
   typedef typename __base::const_iterator const_iterator;
   __many_tree() <%%>
   explicit __many_tree(const L &less) : __base(less) <%%>
   template <class... A> iterator emplace(A &&...given) <%
     __node<V> *n = this->__make(std::forward<A>(given)...);
     typename __base::__spot spot = this->__many_spot(this->__key(n));
     this->__link(n, spot.parent, spot.isLeft); return iterator(n); %>
   iterator insert(const V &value) <% return emplace(value); %>
   iterator insert(V &&value) <% return emplace(std::move(value)); %>
   template <class U, class = typename enable_if<is_constructible<V, U &&>::value &&
       !is_same<V, typename decay<U>::type>::value>::type>
   iterator insert(U &&value) <% return emplace(std::forward<U>(value)); %>
   template <class I, class = typename enable_if<__is_iterator<I>::value>::type>
   void insert(I first, I last) <% for (; first != last; ++first) emplace(*first); %>
   void insert(initializer_list<V> list) <% insert(list.begin(), list.end()); %>
 %>;
 #define __TREE template <class K, class V, class O, class L>
 #define __T __tree<K, V, O, L>
 __TREE bool operator==(const __T &a, const __T &b) <%
   return a.size() == b.size() && equal(a.begin(), a.end(), b.begin()); %>
 __TREE bool operator<(const __T &a, const __T &b) <%
   return lexicographical_compare(a.begin(), a.end(), b.begin(), b.end()); %>
 __TREE bool operator!=(const __T &a, const __T &b) <% return !(a == b); %>
 __TREE bool operator>(const __T &a, const __T &b) <% return b < a; %>
 __TREE bool operator<=(const __T &a, const __T &b) <% return !(b < a); %>
 __TREE bool operator>=(const __T &a, const __T &b) <% return !(a < b); %>
 __TREE void swap(__T &a, __T &b) noexcept <% a.swap(b); %>
 #undef __T
 #undef __TREE
 %>
"

/-- Values by their keys in order. -/
def maps : Octets := "
 #include <__tree>
 namespace std <%
 template <class K, class T, class L = less<K>, class A = allocator<pair<const K, T>>>
 class map : public __single_tree<K, pair<const K, T>, __first_key, L> <%
   typedef __single_tree<K, pair<const K, T>, __first_key, L> __base;
 public:
   typedef T mapped_type; typedef pair<const K, T> value_type;
   typedef typename __base::iterator iterator;
   typedef typename __base::const_iterator const_iterator;
   map() <%%>
   explicit map(const L &less, const A & = A()) : __base(less) <%%>
   map(initializer_list<value_type> list, const L &less = L()) : __base(less) <%
     this->insert(list.begin(), list.end()); %>
   template <class I, class = typename enable_if<__is_iterator<I>::value>::type>
   map(I first, I last, const L &less = L()) : __base(less) <% this->insert(first, last); %>
   map(const map &) = default;
   map(map &&) = default;
   map &operator=(const map &) = default;
   map &operator=(map &&) = default;
   map &operator=(initializer_list<value_type> list) <%
     this->clear(); this->insert(list.begin(), list.end()); return *this; %>
   T &operator[](const K &key) <%
     typename __base::__spot spot = this->__single_spot(key);
     if (spot.same) return iterator(spot.same)->second;
     __node<value_type> *n = this->__make(piecewise_construct, forward_as_tuple(key), tuple<>());
     this->__link(n, spot.parent, spot.isLeft); return n->value.second; %>
   T &operator[](K &&key) <%
     typename __base::__spot spot = this->__single_spot(key);
     if (spot.same) return iterator(spot.same)->second;
     __node<value_type> *n =
         this->__make(piecewise_construct, forward_as_tuple(std::move(key)), tuple<>());
     this->__link(n, spot.parent, spot.isLeft); return n->value.second; %>
   T &at(const K &key) <%
     __node_base *n = this->__locate(key);
     if (n == &this->__head) __throw_out_of_range(\"map::at\");
     return static_cast<__node<value_type> *>(n)->value.second; %>
   const T &at(const K &key) const <%
     __node_base *n = this->__locate(key);
     if (n == &this->__head) __throw_out_of_range(\"map::at\");
     return static_cast<__node<value_type> *>(n)->value.second; %>
 #if __cplusplus >= 201703L
   template <class... B> pair<iterator, bool> try_emplace(const K &key, B &&...given) <%
     typename __base::__spot spot = this->__single_spot(key);
     if (spot.same) return pair<iterator, bool>(iterator(spot.same), false);
     return this->emplace(piecewise_construct, forward_as_tuple(key),
         forward_as_tuple(std::forward<B>(given)...)); %>
   template <class U> pair<iterator, bool> insert_or_assign(const K &key, U &&value) <%
     typename __base::__spot spot = this->__single_spot(key);
     if (spot.same) <% iterator(spot.same)->second = std::forward<U>(value);
       return pair<iterator, bool>(iterator(spot.same), false); %>
     return this->emplace(key, std::forward<U>(value)); %>
 #endif
 %>;
 template <class K, class T, class L = less<K>, class A = allocator<pair<const K, T>>>
 class multimap : public __many_tree<K, pair<const K, T>, __first_key, L> <%
   typedef __many_tree<K, pair<const K, T>, __first_key, L> __base;
 public:
   typedef T mapped_type; typedef pair<const K, T> value_type;
   multimap() <%%>
   explicit multimap(const L &less) : __base(less) <%%>
   multimap(initializer_list<value_type> list, const L &less = L()) : __base(less) <%
     this->insert(list.begin(), list.end()); %>
   template <class I, class = typename enable_if<__is_iterator<I>::value>::type>
   multimap(I first, I last, const L &less = L()) : __base(less) <% this->insert(first, last); %>
 %>;
 %>
"

/-- Sets in order. -/
def sets : Octets := "
 #include <__tree>
 namespace std <%
 template <class K, class L = less<K>, class A = allocator<K>>
 class set : public __single_tree<K, K, __own_key, L> <%
   typedef __single_tree<K, K, __own_key, L> __base;
 public:
   set() <%%>
   explicit set(const L &less, const A & = A()) : __base(less) <%%>
   set(initializer_list<K> list, const L &less = L()) : __base(less) <%
     this->insert(list.begin(), list.end()); %>
   template <class I, class = typename enable_if<__is_iterator<I>::value>::type>
   set(I first, I last, const L &less = L()) : __base(less) <% this->insert(first, last); %>
   set(const set &) = default;
   set(set &&) = default;
   set &operator=(const set &) = default;
   set &operator=(set &&) = default;
   set &operator=(initializer_list<K> list) <%
     this->clear(); this->insert(list.begin(), list.end()); return *this; %>
 %>;
 template <class K, class L = less<K>, class A = allocator<K>>
 class multiset : public __many_tree<K, K, __own_key, L> <%
   typedef __many_tree<K, K, __own_key, L> __base;
 public:
   multiset() <%%>
   explicit multiset(const L &less) : __base(less) <%%>
   multiset(initializer_list<K> list, const L &less = L()) : __base(less) <%
     this->insert(list.begin(), list.end()); %>
   template <class I, class = typename enable_if<__is_iterator<I>::value>::type>
   multiset(I first, I last, const L &less = L()) : __base(less) <% this->insert(first, last); %>
 %>;
 %>
"

/-- The headers of ordered containers. -/
def treeHeaders : List (Octets × Octets) :=
  [("__tree", trees), ("map", maps), ("set", sets)]

end QueryFoundry.Native.Headers
